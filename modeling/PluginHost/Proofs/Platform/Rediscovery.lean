import PluginHost.Manager.Scripted
import PluginHost.Proofs.Platform.Admission
import PluginHost.Proofs.Platform.Discovery

namespace PluginHost

namespace Roll

variable {c d e : Roll} {path : Path} {does : Except PluginError (TypeKey × Option Panic)}

/-- Whoever is registered stays, and the same names are refused. -/
structure Grows (c d : Roll) : Prop where
  record? : ∀ name, (c.record? name).isSome → (d.record? name).isSome
  registered : ∀ key, c.registered key → d.registered key
  blacklisted : d.blacklisted = c.blacklisted

theorem grows_refl (c : Roll) : c.Grows c := ⟨fun _ => id, fun _ => id, rfl⟩

theorem Grows.trans (first : c.Grows d) (second : d.Grows e) : c.Grows e where
  record? name there := second.record? name (first.record? name there)
  registered key taken := second.registered key (first.registered key taken)
  blacklisted := second.blacklisted.trans first.blacklisted

/-- Who is entered comes along with the others. -/
theorem grows_enter (c : Roll) (info : PluginInfo) : c.Grows (c.enter info) where
  record? name there := by
    rw [record?_enter]
    split
    · rfl
    · exact there
  registered key taken := by
    simp only [enter, Function.update_apply]
    split
    · rfl
    · exact taken
  blacklisted := rfl

theorem grows_after (c : Roll) (verdict : Verdict) : c.Grows (c.after verdict) := by
  unfold after
  split
  · exact grows_enter ..
  · exact grows_refl c

/-- What keeps a file out keeps it out later on. -/
theorem Grows.refuses (grows : c.Grows d) {error : PluginError} (refused : c.verdict path does = .ok (.error error)) :
    ∃ error, d.verdict path does = .ok (.error error) := by
  unfold verdict at refused ⊢
  cases named : LibraryName.pluginName? path with
  | none => exact ⟨_, rfl⟩
  | some name =>
    simp only [named, grows.blacklisted] at refused ⊢
    by_cases listed : c.blacklisted name
    · exact ⟨_, if_pos listed⟩
    by_cases known : (d.record? name).isSome
    · exact ⟨_, by rw [if_neg listed, if_pos known]⟩
    have fresh : ¬ (c.record? name).isSome := fun there => known (grows.record? name there)
    rw [if_neg listed, if_neg fresh] at refused
    rw [if_neg listed, if_neg known]
    unfold judge at refused ⊢
    rcases does with error | ⟨key, panic?⟩
    · exact ⟨error, rfl⟩
    · by_cases taken : c.registered key
      · exact ⟨_, if_pos (grows.registered key taken)⟩
      · simp only [if_neg taken] at refused
        cases panic? <;> cases refused

/-- A plugin that has come in keeps its own file out. -/
theorem enter_refuses {info : PluginInfo} (entered : c.verdict path does = .ok (.ok info)) :
    ∃ error, (c.enter info).verdict path does = .ok (.error error) := by
  have known : ((c.enter info).record? info.name).isSome := by
    rw [record?_enter, if_pos rfl]
    rfl
  rw [verdict, named_of_verdict entered]
  by_cases listed : (c.enter info).blacklisted info.name
  · exact ⟨_, if_pos listed⟩
  · exact ⟨_, (if_neg listed).trans (if_pos known)⟩

end Roll

namespace Platform

variable {M : Type} [Manager M] {site : Site M} {path : Path} {paths : List Path} {p q : Platform M}

omit [Manager M] in
theorem Spares.trans {r : Platform M} (first : Spares p q) (second : Spares q r) : Spares p r where
  plugins := second.plugins.trans first.plugins
  nextId := second.nextId.trans first.nextId
  registry := second.registry.trans first.registry
  order := second.order.trans first.order

/-- A file is passed over. -/
def Refused (site : Site M) (path : Path) (p : Platform M) : Prop :=
  ∃ error, (load site path p).result = .ok (.error error)

theorem refused_iff : Refused site path p ↔
    ∃ error, p.roll.verdict path (site.conduct path p.controller.holder) = .ok (.error error) := by
  unfold Refused
  rw [(load_roll site path p).1]
  rcases p.roll.verdict path (site.conduct path p.controller.holder) with panic | error | info <;>
    simp [Except.map]

/-- What kept a file out keeps it out on a longer roll. -/
theorem Refused.later (steady : site.Steady) (refused : Refused site path p) (grows : p.roll.Grows q.roll) :
    Refused site path q := by
  obtain ⟨error, verdict⟩ := refused_iff.mp refused
  rw [steady path p.controller.holder q.controller.holder] at verdict
  exact refused_iff.mpr (grows.refuses verdict)

theorem grows_load (site : Site M) (path : Path) (p : Platform M) : p.roll.Grows (load site path p).state.roll := by
  rw [(load_roll site path p).2]
  exact Roll.grows_after ..

theorem grows_loadEach (site : Site M) (paths : List Path) (p : Platform M) :
    p.roll.Grows (loadEach site paths p).state.roll :=
  loadEach_relates (R := fun p q => p.roll.Grows q.roll) (fun p => Roll.grows_refl p.roll) Roll.Grows.trans
    (grows_load site) paths p

/-- A file that has been tried is passed over from then on. -/
theorem refused_load (steady : site.Steady) {loaded : Except PluginError String}
    (returned : (load site path p).result = .ok loaded) : Refused site path (load site path p).state := by
  obtain ⟨result, state⟩ := load_roll site path p
  rcases verdict : p.roll.verdict path (site.conduct path p.controller.holder) with panic | error | info
  · rw [verdict, returned] at result
    cases result
  · have refused : Refused site path p := refused_iff.mpr ⟨error, verdict⟩
    exact refused.later steady (grows_load site path p)
  · rw [refused_iff, state, verdict, steady path _ p.controller.holder]
    exact Roll.enter_refuses verdict

/-- After a scan every file of it is refused: its plugin is there, or what kept it out still is. -/
theorem refused_loadEach (steady : site.Steady) {count : Nat} (returned : (loadEach site paths p).result = .ok count) :
    ∀ path ∈ paths, Refused site path (loadEach site paths p).state := by
  induction paths generalizing p count with
  | nil => nofun
  | cons first paths ih =>
    have grows := grows_loadEach site paths (load site first p).state
    rcases one : (load site first p).result with panic | error | name
    · rw [(loadEach_of_panic one paths).1] at returned
      cases returned
    · obtain ⟨all, last⟩ := loadEach_of_skipped one paths
      rw [all] at returned
      rw [last]
      exact List.forall_mem_cons.mpr ⟨(refused_load steady one).later steady grows, ih returned⟩
    · obtain ⟨all, last⟩ := loadEach_of_loaded one paths
      rw [all] at returned
      rw [last]
      rcases later : (loadEach site paths (load site first p).state).result with panic | n
      · rw [later] at returned
        cases returned
      · exact List.forall_mem_cons.mpr ⟨(refused_load steady one).later steady grows, ih later⟩

/-- A file that does not come in leaves no mark. -/
theorem spares_load (nothing : ∀ name, (load site path p).result ≠ .ok (.ok name)) :
    Spares p (load site path p).state ∧ (load site path p).state.roll = p.roll := by
  obtain ⟨result, admission⟩ := exists_admission site path p
  have effect := admission.outcome.2
  constructor
  · unfold Effect at effect
    split at effect
    · rename_i name entered
      exact absurd entered (nothing name)
    · exact effect.1
  · rcases roll_load site path p with ⟨same, -⟩ | ⟨info, entered, -⟩
    · exact same
    · exact absurd entered (nothing info.name)

/-- Files that are refused change nothing. -/
theorem loadEach_of_refused (steady : site.Steady) (refused : ∀ path ∈ paths, Refused site path p) :
    (loadEach site paths p).result = .ok 0 ∧ Spares p (loadEach site paths p).state ∧
      (loadEach site paths p).state.roll = p.roll := by
  induction paths generalizing p with
  | nil => exact ⟨rfl, spares_refl p, rfl⟩
  | cons path paths ih =>
    obtain ⟨⟨error, skipped⟩, others⟩ := List.forall_mem_cons.mp refused
    have nothing : ∀ name, (load site path p).result ≠ .ok (.ok name) := by simp [skipped]
    obtain ⟨spared, same⟩ := spares_load nothing
    obtain ⟨none, kept, roll⟩ := ih (p := (load site path p).state) fun other member =>
      (others other member).later steady (same ▸ Roll.grows_refl _)
    obtain ⟨all, last⟩ := loadEach_of_skipped skipped paths
    rw [all, last]
    exact ⟨none, spared.trans kept, roll.trans same⟩

/-- Files are loaded up to one whose manager panics. -/
theorem exists_panicked {panic : Panic} (error : (loadEach site paths p).result = .error panic) :
    ∃ before path after count, paths = before ++ path :: after ∧ (loadEach site before p).result = .ok count ∧
      (load site path (loadEach site before p).state).result = .error panic ∧
      (loadEach site paths p).state = (load site path (loadEach site before p).state).state := by
  induction paths generalizing p with
  | nil => cases error
  | cons first paths ih =>
    rcases one : (load site first p).result with other | skipped | name
    · obtain ⟨broken, here⟩ := loadEach_of_panic one paths
      rw [broken] at error
      cases error
      exact ⟨[], first, paths, 0, rfl, rfl, one, here⟩
    · obtain ⟨all, last⟩ := loadEach_of_skipped one paths
      rw [all] at error
      obtain ⟨before, path, after, count, rfl, passed, broken, here⟩ := ih error
      obtain ⟨passed', here'⟩ := loadEach_of_skipped one before
      refine ⟨first :: before, path, after, count, rfl, passed'.trans passed, ?_, ?_⟩
      · rw [here', broken]
      · rw [here', last, here]
    · obtain ⟨all, last⟩ := loadEach_of_loaded one paths
      rw [all] at error
      rcases later : (loadEach site paths (load site first p).state).result with other | n
      · rw [later] at error
        cases error
        obtain ⟨before, path, after, count, rfl, passed, broken, here⟩ := ih later
        obtain ⟨passed', here'⟩ := loadEach_of_loaded one before
        refine ⟨first :: before, path, after, count + 1, rfl, ?_, ?_, ?_⟩
        · rw [passed', passed]
          rfl
        · rw [here', broken]
        · rw [here', last, here]
      · rw [later] at error
        cases error

theorem settings_register (library : Library M) (e : Export M) (p : Platform M) :
    (register library e p).state.catalogue.pluginDir = p.catalogue.pluginDir ∧
      (register library e p).state.catalogue.loadDynamic = p.catalogue.loadDynamic := by
  rw [register_eq]
  split <;> exact ⟨rfl, rfl⟩

/-- To load a file changes nothing about where plugins are looked for. -/
theorem settings_load (site : Site M) (path : Path) (p : Platform M) :
    (load site path p).state.catalogue.pluginDir = p.catalogue.pluginDir ∧
      (load site path p).state.catalogue.loadDynamic = p.catalogue.loadDynamic := by
  unfold load
  rw [Action.get_bind]
  cases LibraryName.pluginName? path with
  | none => exact ⟨rfl, rfl⟩
  | some name =>
    dsimp only
    split
    · exact ⟨rfl, rfl⟩
    · split
      · exact ⟨rfl, rfl⟩
      · cases opens : site.image path with
        | error reason =>
          rw [loadNamed_of_error opens]
          exact ⟨rfl, rfl⟩
        | ok image =>
          rw [loadNamed_of_image opens]
          dsimp only
          split
          · exact ⟨rfl, rfl⟩
          · exact settings_register ..

/-- The directory that is scanned stays the same in the course of a scan. -/
theorem found_loadEach (again site : Site M) (paths : List Path) (p : Platform M) :
    found again (loadEach site paths p).state = found again p := by
  have step : ∀ path p, found again (load site path p).state = found again p := by
    intro path p
    obtain ⟨dir, dynamic⟩ := settings_load site path p
    rw [found, found, dir, dynamic]
  exact loadEach_relates (R := fun p q => found again q = found again p) (fun p => rfl)
    (fun first second => second.trans first) step paths p

/-- Every file of the scan is passed over in the next one, whatever order the files come in then. -/
theorem rescan (steady : site.Steady) {count : Nat} (returned : (loadEach site paths p).result = .ok count)
    {again : Site M} (image : again.image = site.image) {paths' : List Path} (known : ∀ path ∈ paths', path ∈ paths) :
    let second := loadEach again paths' (loadEach site paths p).state
    second.result = .ok 0 ∧ Spares (loadEach site paths p).state second.state := by
  have same : loadEach again paths' = loadEach site paths' := loadEach_congr fun path _ => congrFun image path
  have refused : ∀ path ∈ paths', Refused site path (loadEach site paths p).state :=
    fun path member => refused_loadEach steady returned path (known path member)
  obtain ⟨none, spared, -⟩ := loadEach_of_refused steady refused
  rw [same]
  exact ⟨none, spared⟩

/-- Where a manager panics in the scan, the next one comes as far. -/
theorem rescan_of_panic (steady : site.Steady) {panic : Panic} (error : (loadEach site paths p).result = .error panic) :
    let second := loadEach site paths (loadEach site paths p).state
    second.result = .error panic ∧ Spares (loadEach site paths p).state second.state := by
  obtain ⟨before, path, after, count, rfl, passed, broken, here⟩ := exists_panicked error
  rw [here]
  have known := refused_loadEach steady passed
  generalize (loadEach site before p).state = q at known broken
  have nothing : ∀ name, (load site path q).result ≠ .ok (.ok name) := by simp [broken]
  have unmoved := (spares_load nothing).2
  have refused : ∀ other ∈ before, Refused site other (load site path q).state :=
    fun other member => (known other member).later steady (unmoved ▸ Roll.grows_refl _)
  generalize (load site path q).state = r at unmoved refused
  obtain ⟨none, spared, same⟩ := loadEach_of_refused steady refused
  obtain ⟨whole, last⟩ := loadEach_append none (path :: after)
  generalize (loadEach site before r).state = s at spared same whole last
  have again : (load site path s).result = .error panic :=
    (load_steady steady (same.trans unmoved) path).1.trans broken
  obtain ⟨stops, there⟩ := loadEach_of_panic again after
  have still : ∀ name, (load site path s).result ≠ .ok (.ok name) := by simp [again]
  have left := (spares_load still).1
  dsimp only
  rw [whole, last, stops, there]
  exact ⟨rfl, spared.trans left⟩

/-- A scan is broken off by the manager of a file. -/
theorem conduct_of_panic {panic : Panic} (broken : (load site path p).result = .error panic) :
    ∃ key, site.conduct path p.controller.holder = .ok (key, some panic) := by
  rw [(load_roll site path p).1] at broken
  rcases verdict : p.roll.verdict path (site.conduct path p.controller.holder) with other | error | info
  · rw [verdict] at broken
    cases broken
    exact Roll.panics_of_verdict verdict
  · rw [verdict] at broken
    cases broken
  · rw [verdict] at broken
    cases broken

/-- Discovery that returned has nothing left to do: once more, it loads nothing and changes nothing. It returns
unless a manager panics over the holder, and then it panics again and changes as little. -/
theorem discovery_is_idempotent (site : Site M) (p : Platform M) (steady : site.Steady) :
    let first := discover site p
    (∀ count, first.result = .ok count → ∀ again : Site M, again.image = site.image →
      (∀ path ∈ found again p, path ∈ found site p) →
        let second := discover again first.state
        second.result = .ok 0 ∧ Spares first.state second.state) ∧
    ((∀ path ∈ found site p, ∀ key panic, site.conduct path p.controller.holder ≠ .ok (key, some panic)) →
      ∃ count, first.result = .ok count) ∧
    ∀ panic, first.result = .error panic →
      let second := discover site first.state
      second.result = .error panic ∧ Spares first.state second.state := by
  intro first
  obtain ⟨result, state⟩ := discover_found site p
  have next : ∀ again : Site M,
      (discover again first.state).result = (loadEach again (found again p) first.state).result ∧
        (discover again first.state).state = (loadEach again (found again p) first.state).state := by
    intro again
    have whole := discover_found again first.state
    rwa [state, found_loadEach, ← state] at whole
  refine ⟨?second, ?returns, ?panics⟩
  case second =>
    intro count returned again image known
    have once := rescan steady (result.symm.trans returned) image known
    rw [← state] at once
    dsimp only
    rwa [(next again).1, (next again).2]
  case returns =>
    intro calm
    rcases returned : first.result with panic | count
    · obtain ⟨before, path, after, -, split, -, broken, -⟩ := exists_panicked (result.symm.trans returned)
      obtain ⟨key, conduct⟩ := conduct_of_panic broken
      rw [steady path _ p.controller.holder] at conduct
      exact absurd conduct (calm path (by simp [split]) key panic)
    · exact ⟨count, rfl⟩
  case panics =>
    intro panic broken
    have once := rescan_of_panic steady (result.symm.trans broken)
    rw [← state] at once
    dsimp only
    rwa [(next site).1, (next site).2]

/-- A file that cannot be opened and two of one type of manager, in a directory that is read the other way round the
next time. -/
theorem discovery_is_idempotent_reversed :
    let dir : Path := .ofString "p"
    let clerk : Scripted := { key := ⟨"desk::Clerk"⟩, label := "clerk" }
    let file (name : String) : FolderEntry := ⟨dir.join (.ofString name), true⟩
    let site (entries : List FolderEntry) : Site Scripted :=
      .making ⟨fun _ => true, fun _ => .ok "", fun _ => some (.ok entries)⟩ fun path =>
        if path = (file "b.so").path then .error "invalid header" else .ok clerk
    let p : Platform Scripted := ⟨{ holder := ⟨.empty, ⟨[]⟩, ⟨[]⟩, .off⟩ }, { pluginDir := dir }⟩
    let entries := [file "c.so", file "a.dll", file "b.so"]
    let first := discover (site entries) p
    let second := discover (site entries.reverse) first.state
    first.result = .ok 1 ∧ first.state.controller.typeKeys = [clerk.key] ∧
      second.result = .ok 0 ∧ Spares first.state second.state := by
  intro dir clerk file site p entries first second
  have named : ∀ name ∈ ["c.so", "a.dll", "b.so"], Path.IsName (utf8Bytes name) := by decide +kernel
  have enumerates : Enumerates dir entries := enumerates_files named (by decide +kernel)
  have listed : found (site entries) p = [(file "a.dll").path, (file "b.so").path, (file "c.so").path] :=
    LibraryFolder.candidates_unique enumerates (by decide +kernel)
      ((LibraryFolder.candidates_perm entries).trans (by decide +kernel))
  have backwards : found (site entries.reverse) p = found (site entries) p :=
    LibraryFolder.candidates_eq_of_perm enumerates (List.reverse_perm _)
  have steady : (site entries).Steady := Site.steady_scripted _ _
  obtain ⟨result, state⟩ := discover_found (site entries) p
  have one : first.result = .ok 1 := by
    rw [result, listed]
    decide +kernel
  have keys : first.state.controller.typeKeys = [clerk.key] := by
    rw [state, listed]
    decide +kernel
  obtain ⟨again, -⟩ := discovery_is_idempotent (site entries) p steady
  obtain ⟨none, spared⟩ := again 1 one (site entries.reverse) rfl fun path member => backwards ▸ member
  exact ⟨one, keys, none, spared⟩

end Platform

end PluginHost
