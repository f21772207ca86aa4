import Mathlib.Logic.Function.Basic
import PluginHost.Proofs.Controller.Offer
import PluginHost.Proofs.Platform.Pairing

namespace PluginHost

/-- The name and the path of the library that a plugin comes from. -/
def PluginInfo.source? (info : PluginInfo) : Option (String × Path) :=
  match info.origin with
  | .static => none
  | .dynamic path => some (info.name, path)

/-- A record but for the number and the content of its library. -/
def PluginRecord.plain {M : Type} (record : PluginRecord M) : PluginInfo × Option (String × Path) :=
  (record.info, record.library?.map fun library => (library.name, library.path))

/-- The registered plugins and managers, and what decides over the next ones. -/
@[ext]
structure Roll where
  record? : String → Option (PluginInfo × Option (String × Path))
  typeKeys : List TypeKey
  namespaceOf? : TypeKey → Option Namespace
  registered : TypeKey → Bool
  nextId : PluginId
  blacklisted : String → Bool

/-- What becomes of a file: a hook panics, the file is passed over, or its plugin is registered. -/
abbrev Verdict := Except Panic (Except PluginError PluginInfo)

namespace Roll

def enter (c : Roll) (info : PluginInfo) : Roll :=
  { c with
    record? := Function.update c.record? info.name (some (info, info.source?))
    typeKeys := c.typeKeys ++ [info.manager]
    namespaceOf? := Function.update c.namespaceOf? info.manager (some info.ns)
    registered := Function.update c.registered info.manager true
    nextId := c.nextId + 1 }

theorem record?_enter (c : Roll) (info : PluginInfo) (name : String) :
    (c.enter info).record? name = if name = info.name then some (info, info.source?) else c.record? name :=
  Function.update_apply ..

/-- Only a plugin that is registered makes a difference. -/
def after (c : Roll) : Verdict → Roll
  | .ok (.ok info) => c.enter info
  | _ => c

/-- The verdict on a library that is opened, by what it does. -/
def judge (c : Roll) (path : Path) (name : String) : Except PluginError (TypeKey × Option Panic) → Verdict
  | .error error => .ok (.error error)
  | .ok (key, panic?) =>
    if c.registered key then .ok (.error (.duplicateManager key.name))
    else match panic? with
      | some panic => .error panic
      | none => .ok (.ok ⟨name, .plugin c.nextId, key, .dynamic path⟩)

/-- The verdict on a file, by what it does as a library. -/
def verdict (c : Roll) (path : Path) (does : Except PluginError (TypeKey × Option Panic)) : Verdict :=
  match LibraryName.pluginName? path with
  | none => .ok (.error (.invalidName path))
  | some name =>
    if c.blacklisted name then .ok (.error (.blacklisted name))
    else if (c.record? name).isSome then .ok (.error (.alreadyLoaded name))
    else c.judge path name does

/-- A file that gets past the checks has a new name, and its manager may panic still. -/
theorem verdict_cases (c : Roll) (path : Path) (does : Except PluginError (TypeKey × Option Panic)) :
    (∃ error, c.verdict path does = .ok (.error error)) ∨
      ∃ name key panic?, LibraryName.pluginName? path = some name ∧ c.record? name = none ∧
        does = .ok (key, panic?) ∧ c.verdict path does = match panic? with
          | some panic => .error panic
          | none => .ok (.ok ⟨name, .plugin c.nextId, key, .dynamic path⟩) := by
  unfold verdict
  cases LibraryName.pluginName? path with
  | none => exact .inl ⟨_, rfl⟩
  | some name =>
    by_cases refused : c.blacklisted name
    · exact .inl ⟨_, if_pos refused⟩
    by_cases known : (c.record? name).isSome
    · exact .inl ⟨_, (if_neg refused).trans (if_pos known)⟩
    have judged : c.judge path name does = if c.blacklisted name then .ok (.error (.blacklisted name))
        else if (c.record? name).isSome then .ok (.error (.alreadyLoaded name)) else c.judge path name does :=
      ((if_neg refused).trans (if_neg known)).symm
    dsimp only
    rw [← judged]
    rcases does with error | ⟨key, panic?⟩
    · exact .inl ⟨error, rfl⟩
    · by_cases taken : c.registered key
      · exact .inl ⟨_, if_pos taken⟩
      · exact .inr ⟨name, key, panic?, rfl, by simpa using known, rfl, if_neg taken⟩

variable {c : Roll} {path : Path} {does : Except PluginError (TypeKey × Option Panic)} {info : PluginInfo}

/-- A plugin has the name of its file. -/
theorem named_of_verdict (entered : c.verdict path does = .ok (.ok info)) :
    LibraryName.pluginName? path = some info.name := by
  obtain ⟨error, refused⟩ | ⟨name, key, panic?, named, -, -, verdict⟩ := verdict_cases c path does
  · cases refused.symm.trans entered
  · rw [verdict] at entered
    cases panic? with
    | some panic => cases entered
    | none => cases entered; exact named

/-- A plugin that is registered is a new one, and comes from the file. -/
theorem eq_of_verdict (entered : c.verdict path does = .ok (.ok info)) :
    c.record? info.name = none ∧ info.ns = .plugin c.nextId ∧ info.origin = .dynamic path := by
  obtain ⟨error, refused⟩ | ⟨name, key, panic?, -, fresh, -, verdict⟩ := verdict_cases c path does
  · cases refused.symm.trans entered
  · rw [verdict] at entered
    cases panic? with
    | some panic => cases entered
    | none => cases entered; exact ⟨fresh, rfl, rfl⟩

/-- Only the manager of a plugin that was not refused can break the loading off. -/
theorem panics_of_verdict {panic : Panic} (broken : c.verdict path does = .error panic) :
    ∃ key, does = .ok (key, some panic) := by
  obtain ⟨error, refused⟩ | ⟨name, key, panic?, -, -, made, verdict⟩ := verdict_cases c path does
  · cases refused.symm.trans broken
  · rw [verdict] at broken
    cases panic? with
    | none => cases broken
    | some panic => cases broken; exact ⟨key, made⟩

end Roll

variable {M : Type}

/-- Who is registered on a platform. -/
def Platform.roll (p : Platform M) : Roll where
  record? name := p.catalogue.plugins[name]?.map (·.plain)
  typeKeys := p.controller.typeKeys
  namespaceOf? := p.controller.namespaceOf?
  registered := p.controller.contains
  nextId := p.catalogue.nextId
  blacklisted := p.catalogue.isBlacklisted

namespace Registry

/-- A manager that is filed is found in its namespace. -/
theorem namespaceOf?_file (r : Registry TypeKey (Instance M)) (m : Instance M) (key : TypeKey) (ns : Namespace) :
    (r.file m key ns).namespaceOf? = Function.update r.namespaceOf? key (some ns) := by
  funext other
  rw [namespaceOf?, namespaces_file, Std.ExtTreeMap.getElem?_insert, Function.update_apply]
  by_cases here : key = other
  · simp [here]
  · simp [here, Ne.symm here, namespaceOf?]

theorem contains_file (r : Registry TypeKey (Instance M)) (m : Instance M) (key : TypeKey) (ns : Namespace) :
    (r.file m key ns).contains = Function.update r.contains key true := by
  funext other
  rw [contains, objects_file, Std.ExtTreeMap.contains_insert, Function.update_apply]
  by_cases here : key = other
  · simp [here]
  · simp [here, Ne.symm here, contains]

end Registry

/-- A record that is entered is read off under its name. -/
theorem Catalogue.plain_insert (k : Catalogue M) (record : PluginRecord M) :
    (fun name => (k.plugins.insert record.info.name record)[name]?.map (·.plain)) =
      Function.update (fun name => k.plugins[name]?.map (·.plain)) record.info.name (some record.plain) := by
  funext name
  rw [Std.ExtTreeMap.getElem?_insert, Function.update_apply]
  by_cases here : record.info.name = name
  · simp [here]
  · simp [here, Ne.symm here]

variable [Manager M]

/--
What a file does as a library of the host: it cannot be opened, lacks the entry point, the entry point fails,
or there is a manager of some type, which takes the holder or panics over it.
-/
def Site.conduct (site : Site M) (path : Path) (holder : Holder) :
    Except PluginError (TypeKey × Option Panic) := do
  let some name := LibraryName.pluginName? path | .error (.invalidName path)
  let library ← Library.openAt site ⟨0⟩ path name
  let loaded := library.loadExport holder
  let e ← loaded.result
  return (e.typeKey, (Manager.hook .attach e.manager loaded.holder).panic?)

namespace Platform

open Controller

/-- Registration enters the plugin on the roll where its type is free and its manager calm. -/
theorem register_roll (library : Library M) (e : Export M) (p : Platform M) :
    let panic? := (Manager.hook .attach e.manager p.controller.holder).panic?
    let verdict := p.roll.judge library.path library.name (.ok (e.typeKey, panic?))
    (register library e p).result = verdict.map (·.map (·.name)) ∧
      (register library e p).state.roll = p.roll.after verdict := by
  intro panic? verdict
  rw [register_eq]
  by_cases taken : p.controller.contains e.typeKey
  · have refused : verdict = .ok (.error (.duplicateManager e.typeKey.name)) := if_pos taken
    simp only [addExt_of_contains taken, refused]
    exact ⟨rfl, rfl⟩
  · cases panics : panic? with
    | some panic =>
      have broken : verdict = .error panic := by
        simp only [verdict, Roll.judge, panics]
        exact if_neg taken
      obtain ⟨error, left, -⟩ := addExt_of_panic taken panics (.plugin p.catalogue.nextId) (some library.id)
      simp only [error, left, broken]
      exact ⟨rfl, rfl⟩
    | none =>
      have entered : verdict =
          .ok (.ok ⟨library.name, .plugin p.catalogue.nextId, e.typeKey, .dynamic library.path⟩) := by
        simp only [verdict, Roll.judge, panics]
        exact if_neg taken
      obtain ⟨ok, left⟩ := addExt_of_calm taken panics (.plugin p.catalogue.nextId) (some library.id)
      simp only [ok, left, entered]
      refine ⟨rfl, Roll.ext ?record rfl ?namespaces ?registered rfl rfl⟩
      case record => exact Catalogue.plain_insert ..
      case namespaces => exact Registry.namespaceOf?_file ..
      case registered => exact Registry.contains_file ..

/-- Only its number tells the library that is opened from the one that is looked at. -/
theorem conduct_of_image {site : Site M} {path : Path} {name : String} {image : Image M}
    (named : LibraryName.pluginName? path = some name) (opens : site.image path = .ok image) (id : LibraryId)
    (holder : Holder) :
    let loaded := (⟨id, name, path, image⟩ : Library M).loadExport holder
    site.conduct path holder =
      loaded.result.map fun e => (e.typeKey, (Manager.hook .attach e.manager loaded.holder).panic?) := by
  simp only [Site.conduct, named, Library.openAt, opens]
  rfl

/-- What becomes of an opened file, the roll and the conduct of its library decide. -/
theorem loadNamed_roll {site : Site M} {path : Path} {name : String}
    (named : LibraryName.pluginName? path = some name) (p : Platform M) :
    let verdict := p.roll.judge path name (site.conduct path p.controller.holder)
    (loadNamed site path name p).result = verdict.map (·.map (·.name)) ∧
      (loadNamed site path name p).state.roll = p.roll.after verdict := by
  intro verdict
  cases opens : site.image path with
  | error reason =>
    have shut : verdict = .ok (.error (.load path reason)) := by
      simp only [verdict, Site.conduct, named, Library.openAt, opens]
      rfl
    rw [loadNamed_of_error opens, shut]
    exact ⟨rfl, rfl⟩
  | ok image =>
    let library : Library M := ⟨⟨p.catalogue.opened⟩, name, path, image⟩
    let loaded := library.loadExport p.controller.holder
    have does : site.conduct path p.controller.holder =
        loaded.result.map fun e => (e.typeKey, (Manager.hook .attach e.manager loaded.holder).panic?) :=
      conduct_of_image named opens ⟨p.catalogue.opened⟩ p.controller.holder
    simp only [verdict, does]
    rw [loadNamed_of_image opens]
    cases loaded.result with
    | error error => exact ⟨rfl, rfl⟩
    | ok e =>
      exact register_roll library e ⟨{ p.controller with holder := loaded.holder },
        { p.catalogue with opened := p.catalogue.opened + 1 }⟩

/-- What becomes of a file, the roll and the conduct of its library decide. -/
theorem load_roll (site : Site M) (path : Path) (p : Platform M) :
    let verdict := p.roll.verdict path (site.conduct path p.controller.holder)
    (load site path p).result = verdict.map (·.map (·.name)) ∧
      (load site path p).state.roll = p.roll.after verdict := by
  intro verdict
  unfold load
  rw [Action.get_bind]
  cases named : LibraryName.pluginName? path with
  | none =>
    have nameless : verdict = .ok (.error (.invalidName path)) := by simp only [verdict, Roll.verdict, named]
    rw [nameless]
    exact ⟨rfl, rfl⟩
  | some name =>
    have known : (p.roll.record? name).isSome = p.catalogue.isLoaded name := by
      simp only [roll, Option.isSome_map]
      exact Std.ExtTreeMap.isSome_getElem?_eq_contains
    have unfolded : verdict = if p.catalogue.isBlacklisted name then .ok (.error (.blacklisted name))
        else if p.catalogue.isLoaded name then .ok (.error (.alreadyLoaded name))
        else p.roll.judge path name (site.conduct path p.controller.holder) := by
      simp only [verdict, Roll.verdict, named, known]
      rfl
    rw [unfolded]
    dsimp only
    split
    · exact ⟨rfl, rfl⟩
    · split
      · exact ⟨rfl, rfl⟩
      · exact loadNamed_roll named p

end Platform

end PluginHost
