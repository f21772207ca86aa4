import PluginHost.Manager.Scripted
import PluginHost.Proofs.Library.Folder
import PluginHost.Proofs.Platform.Roll

namespace PluginHost

/-- Plugins are registered one after the other, each under the next number. -/
structure Roll.Gains (before after : Roll) (added : List PluginInfo) : Prop where
  names : (added.map (·.name)).Nodup
  fresh : ∀ info ∈ added, before.record? info.name = none
  record? : ∀ name, after.record? name =
    ((added.find? (·.name = name)).map fun info => (info, info.source?)).or (before.record? name)
  typeKeys : after.typeKeys = before.typeKeys ++ added.map (·.manager)
  ns : added.map (·.ns) = (List.range added.length).map fun i => .plugin (before.nextId + .ofNat i)
  nextId : after.nextId = before.nextId + .ofNat added.length

namespace Roll

variable {c d : Roll} {info : PluginInfo} {added : List PluginInfo}

theorem gains_refl (c : Roll) : c.Gains c [] where
  names := .nil
  fresh := nofun
  record? _ := rfl
  typeKeys := (List.append_nil _).symm
  ns := rfl
  nextId := by simp

/-- One more that is entered first. -/
theorem Gains.cons (fresh : c.record? info.name = none) (ns : info.ns = .plugin c.nextId)
    (gains : (c.enter info).Gains d added) : c.Gains d (info :: added) := by
  have apart : ∀ other ∈ added, other.name ≠ info.name := by
    intro other member same
    have absent := gains.fresh other member
    simp [record?_enter, same] at absent
  have earlier : ∀ other ∈ added, c.record? other.name = none := by
    intro other member
    have absent := gains.fresh other member
    rwa [record?_enter, if_neg (apart other member)] at absent
  have shift : ∀ i : Nat, c.nextId + 1 + .ofNat i = c.nextId + .ofNat (i + 1) := by
    intro i
    rw [UInt32.ofNat_add, UInt32.add_assoc, UInt32.add_comm 1]
    rfl
  refine ⟨?names, ?fresh, ?record, ?typeKeys, ?ns, ?nextId⟩
  case names => exact List.nodup_cons.mpr ⟨by simpa using apart, gains.names⟩
  case fresh => exact List.forall_mem_cons.mpr ⟨fresh, earlier⟩
  case record =>
    intro name
    rw [gains.record?, record?_enter, List.find?_cons]
    by_cases here : name = info.name
    · have none : added.find? (·.name = info.name) = none := by simpa using apart
      simp [here, none]
    · simp [here, Ne.symm here]
  case typeKeys => simp [gains.typeKeys, enter]
  case ns =>
    have later := gains.ns
    simp only [enter, shift] at later
    rw [List.map_cons, ns, later, List.length_cons, List.range_succ_eq_map, List.map_cons, List.map_map]
    simp
  case nextId => rw [gains.nextId, enter, shift, List.length_cons]

/-- As long as the numbers last, they are consecutive. -/
theorem Gains.ids (gains : c.Gains d added) (room : c.nextId.toNat + added.length < 2 ^ 32) :
    added.map (·.ns.pluginId.toNat) = List.range' c.nextId.toNat added.length ∧
      d.nextId.toNat = c.nextId.toNat + added.length := by
  have number : ∀ i ≤ added.length, (c.nextId + .ofNat i).toNat = c.nextId.toNat + i := by
    intro i bound
    have small : (UInt32.ofNat i).toNat = i := UInt32.toNat_ofNat_of_lt (by change i < 2 ^ 32; omega)
    rw [UInt32.toNat_add, small]
    omega
  refine ⟨?_, by rw [gains.nextId, number _ le_rfl]⟩
  have split : added.map (·.ns.pluginId.toNat) = (added.map (·.ns)).map (·.pluginId.toNat) := by
    rw [List.map_map]
    rfl
  rw [split, gains.ns, List.map_map, List.range'_eq_map_range]
  refine List.map_congr_left fun i member => ?_
  have bound : i < added.length := List.mem_range.mp member
  simpa using number i bound.le

end Roll

variable {M : Type} [Manager M]

/-- Every file does the same as a library, whatever has become of the holder. -/
def Site.Steady (site : Site M) : Prop :=
  ∀ path holder holder', site.conduct path holder = site.conduct path holder'

/-- Libraries that make one manager each, whatever the holder is. -/
def Site.making (files : Files) (makes : Path → Except String M) : Site M :=
  ⟨files, fun path => (makes path).map fun m => ⟨fun _ => some (enter fun holder => ⟨.ok m, holder, []⟩)⟩⟩

/-- A site is steady if its managers panic over any holder or over none. -/
theorem Site.steady_making (files : Files) (makes : Path → Except String M)
    (alike : ∀ (m : M) holder holder',
      (Manager.hook .attach m holder).panic? = (Manager.hook .attach m holder').panic?) :
    (Site.making files makes).Steady := by
  intro path holder holder'
  rcases named : LibraryName.pluginName? path with _ | name
  · simp only [Site.conduct, named]
  · rcases made : makes path with reason | m
    · have shut : (Site.making files makes).image path = .error reason := by simp only [making, made]; rfl
      simp only [Site.conduct, named, Library.openAt, shut]
      rfl
    · have opens : (Site.making files makes).image path =
          .ok ⟨fun _ => some (enter fun holder => ⟨.ok m, holder, []⟩)⟩ := by simp only [making, made]; rfl
      rw [Platform.conduct_of_image named opens ⟨0⟩, Platform.conduct_of_image named opens ⟨0⟩]
      unfold Library.loadExport Library.lookup?
      rcases LibraryName.symbol? _ with _ | symbol
      · rfl
      · exact congrArg (fun panic? => Except.ok (Manager.concrete m, panic?)) (alike m holder holder')

theorem Site.steady_scripted (files : Files) (makes : Path → Except String Scripted) :
    (Site.making files makes).Steady := by
  refine Site.steady_making files makes fun s holder holder' => ?_
  change (s.answer .attach holder).panic? = (s.answer .attach holder').panic?
  unfold Scripted.answer
  split <;> rfl

namespace Platform

variable {site site' : Site M} {path : Path} {paths rest : List Path} {p q : Platform M}

theorem load_congr (same : site'.image path = site.image path) : load site' path = load site path := by
  unfold load loadNamed openLibrary Library.openAt
  rw [same]

theorem loadEach_congr (same : ∀ path ∈ paths, site'.image path = site.image path) :
    loadEach site' paths = loadEach site paths := by
  induction paths with
  | nil => rfl
  | cons path paths ih =>
    rw [loadEach, loadEach, load_congr (same path List.mem_cons_self),
      ih fun other member => same other (List.mem_cons_of_mem path member)]

theorem loadEach_of_panic {panic : Panic} (broken : (load site path p).result = .error panic) (rest : List Path) :
    (loadEach site (path :: rest) p).result = .error panic ∧
      (loadEach site (path :: rest) p).state = (load site path p).state := by
  rw [loadEach, Action.bind_of_error broken]
  exact ⟨rfl, rfl⟩

/-- A file whose plugin is loaded counts one. -/
theorem loadEach_of_loaded {name : String} (loaded : (load site path p).result = .ok (.ok name))
    (rest : List Path) :
    let later := loadEach site rest (load site path p).state
    (loadEach site (path :: rest) p).result = later.result.map (· + 1) ∧
      (loadEach site (path :: rest) p).state = later.state := by
  intro later
  rw [loadEach, Action.bind_of_ok loaded]
  cases result : later.result with
  | error panic =>
    dsimp only
    rw [Action.bind_of_error result]
    exact ⟨rfl, rfl⟩
  | ok count =>
    dsimp only
    rw [Action.bind_of_ok result]
    exact ⟨rfl, rfl⟩

/-- A file that is refused is skipped and counts nothing. -/
theorem loadEach_of_skipped {error : PluginError} (skipped : (load site path p).result = .ok (.error error))
    (rest : List Path) :
    let later := loadEach site rest (load site path p).state
    (loadEach site (path :: rest) p).result = later.result ∧
      (loadEach site (path :: rest) p).state = later.state := by
  intro later
  rw [loadEach, Action.bind_of_ok skipped]
  exact ⟨rfl, rfl⟩

/-- What every loading does to the platform, the loading of many files does. -/
theorem loadEach_relates {R : Platform M → Platform M → Prop} (refl : ∀ p, R p p)
    (trans : ∀ {p q r}, R p q → R q r → R p r) (step : ∀ path p, R p (load site path p).state) (paths : List Path)
    (p : Platform M) : R p (loadEach site paths p).state := by
  induction paths generalizing p with
  | nil => exact refl p
  | cons path paths ih =>
    have first := step path p
    have later := ih (load site path p).state
    rcases one : (load site path p).result with panic | error | name
    · rw [(loadEach_of_panic one paths).2]
      exact first
    · rw [(loadEach_of_skipped one paths).2]
      exact trans first later
    · rw [(loadEach_of_loaded one paths).2]
      exact trans first later

/-- Files in two rows: the second row goes on from where the first one ended, and their counts add up. -/
theorem loadEach_append {before : List Path} {count : Nat} (passed : (loadEach site before p).result = .ok count)
    (rest : List Path) :
    let later := loadEach site rest (loadEach site before p).state
    (loadEach site (before ++ rest) p).result = later.result.map (· + count) ∧
      (loadEach site (before ++ rest) p).state = later.state := by
  induction before generalizing p count with
  | nil =>
    cases passed
    refine ⟨?_, rfl⟩
    change _ = Except.map id _
    rw [Except.map_id]
    rfl
  | cons first before ih =>
    rcases one : (load site first p).result with panic | skipped | name
    · rw [(loadEach_of_panic one before).1] at passed
      cases passed
    · obtain ⟨all, left⟩ := loadEach_of_skipped one before
      obtain ⟨all', left'⟩ := loadEach_of_skipped one (before ++ rest)
      rw [all] at passed
      rw [List.cons_append, all', left', left]
      exact ih passed
    · obtain ⟨all, left⟩ := loadEach_of_loaded one before
      obtain ⟨all', left'⟩ := loadEach_of_loaded one (before ++ rest)
      rw [all] at passed
      rcases counted : (loadEach site before (load site first p).state).result with panic | n
      · rw [counted] at passed
        cases passed
      · rw [counted] at passed
        cases passed
        obtain ⟨result, state⟩ := ih counted
        rw [List.cons_append, all', left', left, result]
        refine ⟨?_, state⟩
        rcases (loadEach site rest (loadEach site before (load site first p).state).state).result with panic | m <;> rfl

/-- On a steady site a file comes to the same wherever the roll is the same. -/
theorem load_steady (steady : site.Steady) (same : p.roll = q.roll) (path : Path) :
    (load site path p).result = (load site path q).result ∧
      (load site path p).state.roll = (load site path q).state.roll := by
  obtain ⟨result, state⟩ := load_roll site path p
  obtain ⟨result', state'⟩ := load_roll site path q
  rw [result, state, result', state', same, steady path p.controller.holder q.controller.holder]
  exact ⟨rfl, rfl⟩

/-- So do files one after the other, by induction on them. -/
theorem loadEach_steady (steady : site.Steady) (same : p.roll = q.roll) (paths : List Path) :
    (loadEach site paths p).result = (loadEach site paths q).result ∧
      (loadEach site paths p).state.roll = (loadEach site paths q).state.roll := by
  induction paths generalizing p q with
  | nil => exact ⟨rfl, same⟩
  | cons path paths ih =>
    obtain ⟨result, next⟩ := load_steady steady same path
    obtain ⟨results, last⟩ := ih next
    cases one : (load site path q).result with
    | error panic =>
      obtain ⟨broken, here⟩ := loadEach_of_panic one paths
      obtain ⟨broken', there⟩ := loadEach_of_panic (result.trans one) paths
      rw [broken, here, broken', there]
      exact ⟨rfl, next⟩
    | ok loaded =>
      cases loaded with
      | error error =>
        obtain ⟨all, here⟩ := loadEach_of_skipped one paths
        obtain ⟨all', there⟩ := loadEach_of_skipped (result.trans one) paths
        rw [all, here, all', there]
        exact ⟨results, last⟩
      | ok name =>
        obtain ⟨all, here⟩ := loadEach_of_loaded one paths
        obtain ⟨all', there⟩ := loadEach_of_loaded (result.trans one) paths
        rw [all, here, all', there, results]
        exact ⟨rfl, last⟩

/-- A file leaves a plugin that is new, or no mark at all. -/
theorem roll_load (site : Site M) (path : Path) (p : Platform M) :
    ((load site path p).state.roll = p.roll ∧ ∀ name, (load site path p).result ≠ .ok (.ok name)) ∨
      ∃ info : PluginInfo, (load site path p).result = .ok (.ok info.name) ∧
        (load site path p).state.roll = p.roll.enter info ∧ p.roll.record? info.name = none ∧
        info.ns = .plugin p.roll.nextId ∧ info.origin = .dynamic path := by
  obtain ⟨result, state⟩ := load_roll site path p
  rw [result, state]
  rcases verdict : p.roll.verdict path (site.conduct path p.controller.holder) with panic | error | info
  · exact .inl ⟨rfl, nofun⟩
  · exact .inl ⟨rfl, nofun⟩
  · exact .inr ⟨info, rfl, rfl, Roll.eq_of_verdict verdict⟩

/-- The plugins that come of files are numbered in the order of the files. -/
theorem gains_loadEach (site : Site M) (paths : List Path) (p : Platform M) :
    ∃ added, p.roll.Gains (loadEach site paths p).state.roll added ∧
      (added.map (·.origin)).Sublist (paths.map .dynamic) ∧
      ∀ count, (loadEach site paths p).result = .ok count → added.length = count := by
  induction paths generalizing p with
  | nil => exact ⟨[], Roll.gains_refl _, .slnil, fun count ok => by cases ok; rfl⟩
  | cons path paths ih =>
    obtain ⟨added, gains, files, length⟩ := ih (load site path p).state
    rcases roll_load site path p with ⟨same, nothing⟩ | ⟨info, loaded, entered, fresh, ns, origin⟩
    · rcases one : (load site path p).result with panic | error | name
      · obtain ⟨broken, here⟩ := loadEach_of_panic one paths
        rw [broken, here, same]
        exact ⟨[], Roll.gains_refl _, List.nil_sublist _, nofun⟩
      · obtain ⟨all, here⟩ := loadEach_of_skipped one paths
        rw [all, here]
        rw [same] at gains
        exact ⟨added, gains, files.cons _, length⟩
      · exact absurd one (nothing name)
    · obtain ⟨all, here⟩ := loadEach_of_loaded loaded paths
      rw [all, here]
      rw [entered] at gains
      refine ⟨info :: added, gains.cons fresh ns, ?_, fun count ok => ?_⟩
      · simpa [origin] using files
      · rcases later : (loadEach site paths (load site path p).state).result with panic | n
        · rw [later] at ok
          cases ok
        · rw [later] at ok
          cases ok
          rw [List.length_cons, length n later]

/-- In the course of the files there is an error with one of them. -/
def PassedOver (site : Site M) (paths : List Path) (p : Platform M) (path : Path) : Prop :=
  ∃ before after count error, paths = before ++ path :: after ∧ (loadEach site before p).result = .ok count ∧
    (load site path (loadEach site before p).state).result = .ok (.error error)

/-- A file that is passed over might as well not be there. -/
theorem loadEach_skip (steady : site.Steady) {before : List Path} {count : Nat} {error : PluginError}
    (passed : (loadEach site before p).result = .ok count)
    (failed : (load site path (loadEach site before p).state).result = .ok (.error error)) (after : List Path) :
    (loadEach site (before ++ after) p).result = (loadEach site (before ++ path :: after) p).result ∧
      (loadEach site (before ++ after) p).state.roll = (loadEach site (before ++ path :: after) p).state.roll := by
  generalize middle : (loadEach site before p).state = q at failed
  have same : q.roll = (load site path q).state.roll := by
    rcases roll_load site path q with ⟨same, -⟩ | ⟨info, loaded, -⟩
    · exact same.symm
    · cases failed.symm.trans loaded
  obtain ⟨result, state⟩ := loadEach_steady steady same after
  obtain ⟨without, left⟩ := loadEach_append passed after
  obtain ⟨all, left'⟩ := loadEach_append passed (path :: after)
  obtain ⟨later, last⟩ := loadEach_of_skipped failed after
  rw [without, left, all, left', middle, later, last, result]
  exact ⟨rfl, state⟩

/-- Discovery is the loading of the libraries in the directory, and then a word about it. -/
theorem discover_of_folder {entries : List FolderEntry} (dynamic : p.catalogue.loadDynamic)
    (content : site.files.folder? p.catalogue.pluginDir = some (.ok entries)) :
    discover site p = (loadEach site (LibraryFolder.candidates entries) >>= fun count => do
      info ("Loaded " ++ toString count ++ " plugin(s) from " ++ p.catalogue.pluginDir.display)
      return count) p := by
  unfold discover LibraryFolder.list
  rw [Action.get_bind]
  simp only [dynamic, content]
  rfl

/-- The libraries that discovery tries. -/
def found (site : Site M) (p : Platform M) : List Path :=
  if p.catalogue.loadDynamic then libraries site p.catalogue.pluginDir else []

/-- Whether or not there is a directory, discovery comes to the loading of the libraries that are found. -/
theorem discover_found (site : Site M) (p : Platform M) :
    (discover site p).result = (loadEach site (found site p) p).result ∧
      (discover site p).state = (loadEach site (found site p) p).state := by
  unfold discover found libraries
  rw [Action.get_bind]
  cases p.catalogue.loadDynamic with
  | false => exact ⟨rfl, rfl⟩
  | true =>
    rcases LibraryFolder.list site.files p.catalogue.pluginDir with ⟨error | paths, records⟩
    · exact ⟨rfl, rfl⟩
    · change ((loadEach site paths >>= _) p).result = _ ∧ ((loadEach site paths >>= _) p).state = _
      rcases result : (loadEach site paths p).result with panic | count
      · rw [Action.bind_of_error result]
        exact ⟨result.symm, rfl⟩
      · rw [Action.bind_of_ok result]
        exact ⟨result.symm, rfl⟩

/-- Discovery loads the candidates one after the other. -/
theorem discover_eq {entries : List FolderEntry} (dynamic : p.catalogue.loadDynamic)
    (content : site.files.folder? p.catalogue.pluginDir = some (.ok entries)) :
    (discover site p).result = (loadEach site (LibraryFolder.candidates entries) p).result ∧
      (discover site p).state = (loadEach site (LibraryFolder.candidates entries) p).state := by
  have whole := discover_found site p
  have listed : found site p = LibraryFolder.candidates entries := by
    rw [found, if_pos dynamic, libraries, LibraryFolder.list, content]
  rwa [listed] at whole

/-- In which order a directory is read makes no difference. -/
theorem discover_of_perm {entries entries' : List FolderEntry} (dynamic : p.catalogue.loadDynamic)
    (content : site.files.folder? p.catalogue.pluginDir = some (.ok entries))
    (enumerates : Enumerates p.catalogue.pluginDir entries) (image : site'.image = site.image)
    (content' : site'.files.folder? p.catalogue.pluginDir = some (.ok entries')) (perm : entries'.Perm entries) :
    discover site' p = discover site p := by
  have same : loadEach site' (LibraryFolder.candidates entries) = loadEach site (LibraryFolder.candidates entries) :=
    loadEach_congr fun path _ => congrFun image path
  rw [discover_of_folder dynamic content', discover_of_folder dynamic content,
    LibraryFolder.candidates_eq_of_perm enumerates perm, same]

/-- A file that is passed over may as well not be there. -/
theorem discover_of_deletion {entries entries' : List FolderEntry} (dynamic : p.catalogue.loadDynamic)
    (content : site.files.folder? p.catalogue.pluginDir = some (.ok entries))
    (enumerates : Enumerates p.catalogue.pluginDir entries) (steady : site.Steady)
    (broken : PassedOver site (LibraryFolder.candidates entries) p path)
    (image : ∀ other ≠ path, site'.image other = site.image other)
    (content' : site'.files.folder? p.catalogue.pluginDir = some (.ok entries'))
    (perm : entries'.Perm (entries.filter (·.path ≠ path))) :
    (discover site' p).result = (discover site p).result ∧
      (discover site' p).state.roll = (discover site p).state.roll := by
  obtain ⟨before, after, count, error, split, passed, failed⟩ := broken
  have fewer := enumerates.sublist (List.filter_sublist (p := (·.path ≠ path)))
  have left : LibraryFolder.candidates entries' = before ++ after :=
    (LibraryFolder.candidates_eq_of_perm fewer perm).trans (LibraryFolder.candidates_erase enumerates split)
  have absent : ∀ other ∈ before ++ after, other ≠ path := by
    intro other member
    rw [← left, LibraryFolder.mem_candidates_iff, perm.mem_iff] at member
    simpa using (List.mem_filter.mp member.1).2
  have same : loadEach site' (before ++ after) = loadEach site (before ++ after) :=
    loadEach_congr fun other member => image other (absent other member)
  obtain ⟨result, state⟩ := discover_eq dynamic content
  obtain ⟨result', state'⟩ := discover_eq dynamic content'
  rw [result, state, split, result', state', left, same]
  exact loadEach_skip steady passed failed after

/--
Discovery does not depend on the order in which the directory is read, nor on the files in it that cannot be
loaded. It takes the libraries in the order of their paths, and numbers the plugins that come of them so.
-/
theorem discovery_is_canonical (site : Site M) (p : Platform M) {entries : List FolderEntry}
    (dynamic : p.catalogue.loadDynamic)
    (content : site.files.folder? p.catalogue.pluginDir = some (.ok entries))
    (enumerates : Enumerates p.catalogue.pluginDir entries) (steady : site.Steady) :
    let dir := p.catalogue.pluginDir
    let paths := LibraryFolder.candidates entries
    let run := discover site p
    (∀ (site' : Site M) (entries' : List FolderEntry), site'.image = site.image →
      site'.files.folder? dir = some (.ok entries') → entries'.Perm entries → discover site' p = run) ∧
    (∀ path, path ∈ paths ↔ ∃ name, Path.IsName name ∧ path = dir.join ⟨name⟩ ∧ ⟨path, true⟩ ∈ entries ∧
      ∃ stem ext, stem ≠ [] ∧ name = stem ++ Path.dot :: ext ∧
        ext.map lowerByte ∈ ["dll", "so", "dylib"].map utf8Bytes) ∧
    paths.Pairwise (fun first second => first.le second ∧ ¬ second.le first) ∧
    run.result = (loadEach site paths p).result ∧ run.state = (loadEach site paths p).state ∧
    (∀ path, PassedOver site paths p path → ∀ (site' : Site M) (entries' : List FolderEntry),
      (∀ other ≠ path, site'.image other = site.image other) →
      site'.files.folder? dir = some (.ok entries') → entries'.Perm (entries.filter (·.path ≠ path)) →
        (discover site' p).result = run.result ∧ (discover site' p).state.roll = run.state.roll) ∧
    ∀ count, run.result = .ok count → p.catalogue.nextId.toNat + count < 2 ^ 32 →
      ∃ added : List PluginInfo, added.length = count ∧ p.roll.Gains run.state.roll added ∧
        added.map (·.ns.pluginId.toNat) = List.range' p.catalogue.nextId.toNat count ∧
        (added.map (·.origin)).Sublist (paths.map .dynamic) := by
  intro dir paths run
  obtain ⟨result, state⟩ := discover_eq dynamic content
  refine ⟨?order, fun path => LibraryFolder.mem_candidates_iff_named enumerates,
    LibraryFolder.candidates_increasing enumerates, result, state, ?deletion, ?count⟩
  case order =>
    intro site' entries' image content' perm
    exact discover_of_perm dynamic content enumerates image content' perm
  case deletion =>
    intro path broken site' entries' image content' perm
    exact discover_of_deletion dynamic content enumerates steady broken image content' perm
  case count =>
    intro count ok room
    obtain ⟨added, gains, files, length⟩ := gains_loadEach site paths p
    have length := length count (result.symm.trans ok)
    subst length
    exact ⟨added, rfl, by rwa [state], (gains.ids room).1, files⟩

/-- A file that cannot be opened, two of one type of manager, and two of one name. -/
theorem discovery_is_canonical_broken :
    let dir : Path := .ofString "p"
    let clerk : Scripted := { key := ⟨"desk::Clerk"⟩, label := "clerk" }
    let guard : Scripted := { key := ⟨"gate::Guard"⟩, label := "guard" }
    let file (name : String) : FolderEntry := ⟨dir.join (.ofString name), true⟩
    let site (entries : List FolderEntry) : Site Scripted :=
      .making ⟨fun _ => true, fun _ => .ok "", fun _ => some (.ok entries)⟩ fun path =>
        if path = (file "b.so").path then .error "invalid header"
        else .ok (if path = (file "libc.so").path then guard else clerk)
    let p : Platform Scripted := ⟨{ holder := ⟨.empty, ⟨[]⟩, ⟨[]⟩, .off⟩ }, { pluginDir := dir }⟩
    let entries := [file "libc.so", file "b.so", file "c.SO", file "a.dll"]
    let fewer := [file "libc.so", file "b.so", file "a.dll"]
    let run := discover (site entries) p
    run.result = .ok 2 ∧ run.state.controller.typeKeys = [clerk.key, guard.key] ∧
      discover (site entries.reverse) p = run ∧
      (discover (site fewer) p).result = .ok 2 ∧ (discover (site fewer) p).state.roll = run.state.roll ∧
      ∃ added : List PluginInfo, added.map (·.ns.pluginId.toNat) = [1, 2] ∧
        added.map (·.manager) = [clerk.key, guard.key] := by
  intro dir clerk guard file site p entries fewer run
  let paths := [(file "a.dll").path, (file "b.so").path, (file "c.SO").path, (file "libc.so").path]
  have named : ∀ name ∈ ["libc.so", "b.so", "c.SO", "a.dll"], Path.IsName (utf8Bytes name) := by decide +kernel
  have enumerates : Enumerates dir entries := enumerates_files named (by decide +kernel)
  have listed : LibraryFolder.candidates entries = paths :=
    LibraryFolder.candidates_unique enumerates (by decide +kernel)
      ((LibraryFolder.candidates_perm entries).trans (by decide +kernel))
  have steady : (site entries).Steady := Site.steady_scripted _ _
  obtain ⟨order, -, -, result, state, deletion, count⟩ :=
    discovery_is_canonical (site entries) p rfl rfl enumerates steady
  have ok : run.result = .ok 2 := by
    rw [result, listed]
    decide +kernel
  have keys : run.state.controller.typeKeys = [clerk.key, guard.key] := by
    rw [state, listed]
    decide +kernel
  have failed : PassedOver (site entries) (LibraryFolder.candidates entries) p (file "c.SO").path := by
    rw [listed]
    exact ⟨[(file "a.dll").path, (file "b.so").path], [(file "libc.so").path], 1, .duplicateManager "desk::Clerk",
      rfl, by decide +kernel, by decide +kernel⟩
  have gone : entries.filter (·.path ≠ (file "c.SO").path) = fewer := by decide +kernel
  obtain ⟨same, left⟩ := deletion _ failed (site fewer) fewer (fun _ _ => rfl) rfl (gone ▸ List.Perm.refl _)
  obtain ⟨added, -, gains, ids, -⟩ := count 2 ok (by decide)
  refine ⟨ok, keys, order _ _ rfl rfl (List.reverse_perm _), same.trans ok, left, added, ids, ?_⟩
  exact gains.typeKeys.symm.trans keys

end Platform

end PluginHost
