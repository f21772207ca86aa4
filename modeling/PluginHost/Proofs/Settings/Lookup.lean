import Mathlib.Data.List.Induction
import PluginHost.Proofs.Toml.Walk
import PluginHost.Settings

namespace PluginHost.Settings

/-- What stores documents. -/
inductive Request where
  | insert (name : String) (table : Toml.Table)
  | load (files : Files) (path : Path) (name : String)

/-- The settings after a request. A failed load leaves them. -/
def Request.act (s : Settings) : Request → Settings
  | insert name table => s.insert name table
  | load files path name => match s.load files path name with
    | .ok (loaded, _) => loaded
    | .error _ => s

/-- The settings after some requests to new ones. -/
def after (requests : List Request) : Settings := requests.foldl Request.act .empty

/-- What a request stores: nothing if it is a load of a file that is no document. -/
def Request.stores? : Request → Option (String × Toml.Table)
  | insert name table => some (name, table)
  | load files path name => (readDocument files path).toOption.map (name, ·)

/-- The last document that some requests store under a name. -/
def latest (requests : List Request) (name : String) : Option Toml.Table :=
  (requests.filterMap Request.stores?).reverse.lookup name

variable {s : Settings} {files : Files} {path : Path} {name key : String}

theorem load_of_ok {table : Toml.Table} (read : readDocument files path = .ok table) (name : String) :
    (Request.load files path name).act s = s.insert name table := by
  rw [Request.act, load, read]
  rfl

theorem load_eq_error_iff {error : PluginError} :
    s.load files path name = .error error ↔ readDocument files path = .error error := by
  rw [load]
  cases readDocument files path with
  | error e => simp [bind, Except.bind]
  | ok table => simp [bind, Except.bind, pure, Except.pure]

theorem load_of_error {error : PluginError} (read : readDocument files path = .error error) (name : String) :
    (Request.load files path name).act s = s := by
  rw [Request.act, load_eq_error_iff.mpr read]

theorem documents_insert (s : Settings) (name other : String) (table : Toml.Table) :
    (s.insert name table).documents[other]? = if other = name then some table else s.documents[other]? := by
  by_cases same : other = name
  · simp [insert, same]
  · simp [insert, Std.ExtTreeMap.getElem?_insert, same, Ne.symm same]

/-- The latest document under a name is that of the last request which stores one there. -/
theorem latest_concat (requests : List Request) (request : Request) (name : String) :
    latest (requests ++ [request]) name =
      match request.stores? with
      | some (other, table) => if name = other then some table else latest requests name
      | none => latest requests name := by
  rw [latest, List.filterMap_append, List.reverse_append]
  cases stored : request.stores? with
  | none => simp [stored, latest]
  | some document =>
    obtain ⟨other, table⟩ := document
    by_cases same : name = other
    · simp [stored, same]
    · have apart : (name == other) = false := beq_false_of_ne same
      simp [stored, same, List.lookup_cons, apart, latest]

/-- One request stores what it says and leaves the documents of other names. -/
theorem documents_act (s : Settings) (request : Request) (name : String) :
    (request.act s).documents[name]? =
      match request.stores? with
      | some (other, table) => if name = other then some table else s.documents[name]?
      | none => s.documents[name]? := by
  cases request with
  | insert other table => exact documents_insert s other name table
  | load files path other =>
    cases read : readDocument files path with
    | error e => simp [load_of_error read, Request.stores?, read, Except.toOption]
    | ok table => simp [load_of_ok read, Request.stores?, read, Except.toOption, documents_insert]

/-- By induction over the requests, what is stored is what was stored last. -/
theorem documents_after (requests : List Request) (name : String) :
    (after requests).documents[name]? = latest requests name := by
  induction requests using List.reverseRecOn with
  | nil => simp [after, latest, empty]
  | append_singleton requests request ih =>
    rw [latest_concat, ← ih, after, List.foldl_append]
    exact documents_act _ request name

theorem get?_eq_bind (s : Settings) (name key : String) :
    s.get? name key = s.documents[name]?.bind fun t => t.dotted? key := rfl

/-- A lookup answers what the stored document reaches along the parts of the key. -/
theorem get?_eq_some_iff {v : Toml.Value} :
    s.get? name key = some v ↔ ∃ t, s.documents[name]? = some t ∧ t.Reaches (Text.split '.' key) v := by
  simp only [get?_eq_bind, Option.bind_eq_some_iff, Toml.Table.dotted?_eq_some_iff]

/-- A lookup answers nothing when the walk breaks off or there is no document. -/
theorem get?_eq_none_iff :
    s.get? name key = none ↔ ∀ t, s.documents[name]? = some t → t.Breaks (Text.split '.' key) := by
  simp only [get?_eq_bind, Option.bind_eq_none_iff, Toml.Table.dotted?_eq_none_iff]

theorem get?_insert_undotted {t : Toml.Table} (stored : s.documents[name]? = some t) (key : String) :
    (s.insert name t.undotted).get? name key = (s.get? name key).map Toml.Value.undotted := by
  rw [get?_eq_bind, get?_eq_bind, documents_insert, if_pos rfl, stored]
  exact Toml.Table.dotted?_undotted

/-- A load that fails is as good as none. -/
theorem after_failed (before later : List Request) (files : Files) (path : Path) (name : String) {error : PluginError}
    (failed : (after before).load files path name = .error error) :
    after (before ++ .load files path name :: later) = after (before ++ later) := by
  have kept : (Request.load files path name).act (after before) = after before :=
    load_of_error (load_eq_error_iff.mp failed) name
  rw [after, after, List.foldl_append, List.foldl_append, List.foldl_cons]
  exact congrArg (List.foldl Request.act · later) kept

/-- A lookup walks the document stored last under its name, one part of the dotted key at a time; keys
with a dot in them are never followed, and a failed load changes nothing. -/
theorem lookup_by_walk (requests : List Request) (name : String) :
    let s := after requests
    (∀ key v, s.get? name key = some v ↔
        ∃ t, latest requests name = some t ∧ t.Reaches (Text.split '.' key) v) ∧
      (∀ key, s.get? name key = none ↔
        ∀ t, latest requests name = some t → t.Breaks (Text.split '.' key)) ∧
      (∀ key segments, Text.split '.' key = segments ↔
        segments ≠ [] ∧ (∀ segment ∈ segments, '.' ∉ segment.toList) ∧ ".".intercalate segments = key) ∧
      (∀ t, latest requests name = some t →
        (∀ segments v, segments ≠ [] → (∀ segment ∈ segments, '.' ∉ segment.toList) →
          (s.get? name (".".intercalate segments) = some v ↔ t.Reaches segments v)) ∧
        ∀ key, (s.insert name t.undotted).get? name key = (s.get? name key).map Toml.Value.undotted) ∧
      ∀ before files path other later error, requests = before ++ .load files path other :: later →
        (after before).load files path other = .error error →
          ∀ key, s.get? name key = (after (before ++ later)).get? name key := by
  intro s
  have stored : s.documents[name]? = latest requests name := documents_after requests name
  refine ⟨?_, ?_, fun key segments => Text.split_eq_iff, fun t last => ⟨?_, ?_⟩, ?_⟩
  · intro key v
    rw [get?_eq_some_iff, stored]
  · intro key
    rw [get?_eq_none_iff, stored]
  · intro segments v nonempty plain
    have parted : Text.split '.' (".".intercalate segments) = segments := Text.split_intercalate nonempty plain
    rw [get?_eq_some_iff, stored, last, parted]
    simp
  · exact get?_insert_undotted (stored.trans last)
  · rintro before files path other later error rfl failed key
    change (after _).get? name key = _
    rw [after_failed before later files path other failed]

/-- An inserted document is replaced by one that is loaded, while a file that does not parse changes nothing. -/
theorem lookup_by_walk_replaced :
    let game : Path := .ofString "game.toml"
    let lost : Path := .ofString "lost.toml"
    let read (path : Path) : Except String String :=
      if path = game then .ok "'physics.substeps' = 9\n[physics]\nsubsteps = 4\n" else .error "no such file"
    let files : Files := ⟨fun _ => true, read, fun _ => none⟩
    let requests : List Request := [.insert "game" [("title", .string "Void")], .load files game "game"]
    let s := after (requests ++ [.load files lost "game"])
    (readDocument files game).toOption.isSome ∧
      (after requests).load files lost "game" = .error (.io "no such file") ∧
      s.getInt? "game" "physics.substeps" = some 4 ∧ s.get? "game" "title" = none := by
  intro game lost read files requests s
  have succeeded : (readDocument files game).toOption.isSome := by decide +kernel
  have failed : (after requests).load files lost "game" = .error (.io "no such file") := by
    have other : lost ≠ game := by decide +kernel
    have absent : readDocument files lost = .error (.io "no such file") := by simp [readDocument, files, read, other]
    exact load_eq_error_iff.mpr absent
  obtain ⟨second, loaded⟩ := Option.isSome_iff_exists.mp succeeded
  have values : (second.dotted? "physics.substeps").bind (·.asInt?) = some 4 ∧ second.dotted? "title" = none := by
    have evaluated : (readDocument files game).toOption.all (fun t =>
        (t.dotted? "physics.substeps").bind (·.asInt?) = some 4 ∧ (t.dotted? "title").isNone) := by decide +kernel
    rw [loaded] at evaluated
    simpa using evaluated
  obtain ⟨⟨v, found, four⟩, missing⟩ := values.imp_left Option.bind_eq_some_iff.mp
  have last : latest requests "game" = some second := by simp [requests, latest, Request.stores?, loaded]
  obtain ⟨-, -, -, -, spared⟩ := lookup_by_walk (requests ++ [.load files lost "game"]) "game"
  have same : ∀ key, s.get? "game" key = (after requests).get? "game" key := by
    have kept := spared requests files lost "game" [] _ rfl failed
    rwa [List.append_nil] at kept
  obtain ⟨walks, ends, -⟩ := lookup_by_walk requests "game"
  have reached : s.get? "game" "physics.substeps" = some v := by
    rw [same]
    exact (walks _ v).mpr ⟨second, last, Toml.Table.dotted?_eq_some_iff.mp found⟩
  refine ⟨succeeded, failed, by rw [getInt?, reached, Option.bind_some, four], ?_⟩
  rw [same]
  refine (ends "title").mpr fun t stored => ?_
  cases last.symm.trans stored
  exact Toml.Table.dotted?_eq_none_iff.mp missing

end PluginHost.Settings
