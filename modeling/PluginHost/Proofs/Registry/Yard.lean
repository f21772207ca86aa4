import Mathlib.Data.List.Range
import PluginHost.Proofs.Registry.Contents
import PluginHost.Proofs.Registry.Request

namespace PluginHost

/-- A parcel with the number of its making. Two parcels that look alike are different objects. -/
structure Crate where
  id : Nat
  parcel : Parcel
  deriving DecidableEq

/-- What one operation took out: the objects whose destructors have begun, and those that wait. -/
structure Batch where
  begun : List Crate := []
  waiting : List Crate

/-- A registry of numbered parcels in the course of its operations. -/
structure Yard where
  registry : Registry String Crate := .empty
  /-- the operations that have not returned, the innermost first -/
  batches : List Batch := []
  /-- how many objects were made; it numbers the next one -/
  made : Nat := 0
  /-- the objects whose destructors have begun, in order -/
  destroyed : List Crate := []

/-- What a destructor asks of the registry. -/
def Parcel.request? : Parcel → Option (Request String Parcel)
  | inert _ => none
  | removing _ name => some (.remove name)
  | adding _ name ns load => some (.add load name ns)

/-- How many objects are made for a request. -/
def Request.makes {N T : Type} : Request N T → Nat
  | add .. | addCore .. => 1
  | _ => 0

namespace Yard

/-- What is left to be destroyed when an object is offered, and the registry then. -/
def enrol (r : Registry String Crate) (crate : Crate) (name : String) (ns : Namespace) :
    List Crate × Registry String Crate :=
  match r.add crate name ns with
  | .ok next => ([], next)
  | .error back => ([back], r)

/-- What a request takes out or turns away, and the registry that it leaves. -/
def taking (y : Yard) : Request String Parcel → List Crate × Registry String Crate
  | .add parcel name ns => enrol y.registry ⟨y.made, parcel⟩ name ns
  | .addCore parcel name => enrol y.registry ⟨y.made, parcel⟩ name .core
  | .write name f => ([], y.registry.modify name fun crate => { crate with parcel := f crate.parcel })
  | .remove name => ((y.registry.remove name).1.toList, (y.registry.remove name).2)
  | .clear => y.registry.clear
  | .clearNamespace ns => y.registry.clearNamespace ns
  | .get _ | .has _ | .namespaceOf _ | .names _ | .allNames | .size | .isEmpty => ([], y.registry)

/-- A request is served in one piece. It returns when what it took out is destroyed. -/
def start (y : Yard) (request : Request String Parcel) : Yard :=
  { y with
    registry := (y.taking request).2
    batches := { waiting := (y.taking request).1 } :: y.batches
    made := y.made + request.makes }

/-- What happens next where operations have not returned. -/
inductive Step : Yard → Yard → Prop
  /-- all that the innermost operation took out is destroyed -/
  | finish {y : Yard} {begun : List Crate} {rest : List Batch} :
      y.batches = ⟨begun, []⟩ :: rest → Step y { y with batches := rest }
  /-- any of the objects that wait is destroyed next, and its destructor asks for something or not -/
  | destroy {y : Yard} {begun before after : List Crate} {crate : Crate} {rest : List Batch} :
      y.batches = ⟨begun, before ++ crate :: after⟩ :: rest →
      Step y (crate.parcel.request?.elim id (fun request z => z.start request)
        { y with
          batches := ⟨crate :: begun, before ++ after⟩ :: rest
          destroyed := y.destroyed ++ [crate] })

/-- The states of a registry that was empty at first, whatever it is asked when no operation is going on,
and in whatever order the objects are destroyed. -/
inductive Reached : Yard → Prop
  | empty : Reached {}
  | call {y : Yard} (request : Request String Parcel) : Reached y → y.batches = [] → Reached (y.start request)
  | step {y z : Yard} : Reached y → Step y z → Reached z

/-- The objects that wait to be destroyed. -/
def waiting (y : Yard) : List Crate := y.batches.flatMap (·.waiting)

/-- The numbers of all objects, whatever has become of them. -/
def census (y : Yard) : List Nat :=
  (y.registry.allObjects ++ y.waiting ++ y.destroyed).map (·.id)

/-- The indices are exact, and every object is in one place once. -/
structure Sound (y : Yard) : Prop where
  exact : y.registry.Exact
  census : y.census.Perm (List.range y.made)
  begun : ∀ batch ∈ y.batches, ∀ crate ∈ batch.begun, crate ∈ y.destroyed

variable {y z : Yard}

theorem enrol_perm (r : Registry String Crate) (crate : Crate) (name : String) (ns : Namespace) :
    ((enrol r crate name ns).1 ++ (enrol r crate name ns).2.allObjects).Perm (crate :: r.allObjects) := by
  unfold enrol
  cases added : r.add crate name ns with
  | ok next => exact Registry.add_perm added
  | error back =>
    rw [Registry.add_error added]
    exact .refl _

theorem ids_modify (r : Registry String Crate) (name : String) (f : Parcel → Parcel) :
    (r.modify name fun crate => { crate with parcel := f crate.parcel }).allObjects.map (·.id) =
      r.allObjects.map (·.id) := by
  have ids : (r.mapObjects (·.id)).modify name (fun id => id) =
      (r.modify name fun crate => { crate with parcel := f crate.parcel }).mapObjects (·.id) :=
    Registry.modify_mapObjects (·.id) r (h := fun crate => { crate with parcel := f crate.parcel })
      (fun _ => rfl) name
  have same : (r.mapObjects (·.id)).objects.modify name (fun id => id) = (r.mapObjects (·.id)).objects := by
    apply Std.ExtTreeMap.ext_getElem?
    intro n
    by_cases here : name = n <;> simp [Std.ExtTreeMap.getElem?_modify, here]
  rw [← Registry.allObjects_mapObjects, ← Registry.allObjects_mapObjects, ← ids]
  simp only [Registry.modify, Registry.allObjects, same]

/-- A request moves crates, and adds those it makes, but no crate is lost or doubled by it. -/
theorem census_taking (y : Yard) (request : Request String Parcel) :
    (((y.taking request).1 ++ (y.taking request).2.allObjects).map (·.id)).Perm
      (List.range' y.made request.makes ++ y.registry.allObjects.map (·.id)) := by
  cases request with
  | add parcel name ns => exact (enrol_perm ..).map Crate.id
  | addCore parcel name => exact (enrol_perm ..).map Crate.id
  | write name f => simp [taking, Request.makes, ids_modify]
  | remove name => exact (Registry.remove_perm ..).symm.map Crate.id
  | clear =>
    have nothing : (Registry.empty : Registry String Crate).allObjects = [] :=
      List.map_eq_nil_iff.mpr (Std.ExtTreeMap.toList_eq_nil_iff.mpr rfl)
    simp [taking, Request.makes, Registry.clear, nothing]
  | clearNamespace ns => exact (Registry.clearNamespace_perm ..).symm.map Crate.id
  | get | has | namespaceOf | names | allNames | size | isEmpty => exact .refl _

theorem exact_enrol {r : Registry String Crate} (exact : r.Exact) (crate : Crate) (name : String)
    (ns : Namespace) : (enrol r crate name ns).2.Exact := by
  have next := exact.enrol crate name ns
  unfold enrol
  unfold Registry.enrol at next
  cases added : r.add crate name ns <;> simpa only [added] using next

/-- The registry a request leaves is exact before any destructor has run. -/
theorem exact_taking (exact : y.registry.Exact) (request : Request String Parcel) :
    (y.taking request).2.Exact := by
  cases request with
  | add parcel name ns => exact exact_enrol exact _ name ns
  | addCore parcel name => exact exact_enrol exact _ name .core
  | write name f => exact exact.modify name _
  | remove name => exact exact.remove name
  | clear => exact Registry.exact_empty
  | clearNamespace ns => exact exact.clearNamespace ns
  | get | has | namespaceOf | names | allNames | size | isEmpty => exact exact

/-- A request that starts, from outside or from a destructor, keeps the yard sound. -/
theorem Sound.start (sound : y.Sound) (request : Request String Parcel) : (y.start request).Sound where
  exact := exact_taking sound.exact request
  census := by
    have range : List.range (y.made + request.makes) =
        List.range y.made ++ List.range' y.made request.makes := by
      simpa [List.range_eq_range'] using
        (List.range'_append_1 (s := 0) (m := y.made) (n := request.makes)).symm
    have served := census_taking y request
    have before := sound.census
    rw [List.perm_iff_count] at served before ⊢
    intro id
    have served := served id
    have before := before id
    simp only [Yard.start, Yard.census, waiting, range, List.flatMap_cons, List.map_append,
      List.count_append] at served before ⊢
    omega
  begun := by
    rintro batch (_ | ⟨_, older⟩) crate member
    · cases member
    · exact sound.begun batch older crate member

/-- A step of a cascade keeps the yard sound. -/
theorem Sound.step (sound : y.Sound) (step : Step y z) : z.Sound := by
  cases step with
  | @finish begun rest open_ =>
    refine ⟨sound.exact, ?_, fun batch older => sound.begun batch (open_ ▸ .tail _ older)⟩
    simpa [Yard.census, waiting, open_] using sound.census
  | @destroy begun before after crate rest open_ =>
    have moved : Sound { y with
        batches := ⟨crate :: begun, before ++ after⟩ :: rest
        destroyed := y.destroyed ++ [crate] } := by
      refine ⟨sound.exact, ?_, ?_⟩
      · refine List.Perm.trans ?_ sound.census
        rw [List.perm_iff_count]
        intro id
        simp only [Yard.census, waiting, open_, List.flatMap_cons, List.map_append, List.map_cons,
          List.map_nil, List.count_append, List.count_cons, List.count_nil]
        omega
      · rintro batch (_ | ⟨_, older⟩) destroyed member
        · obtain rfl | earlier := List.mem_cons.mp member
          · simp
          · exact List.mem_append_left _ (sound.begun ⟨begun, before ++ crate :: after⟩ (by simp [open_]) _ earlier)
        · exact List.mem_append_left _ (sound.begun batch (open_ ▸ .tail _ older) _ member)
    cases crate.parcel.request? with
    | none => exact moved
    | some request => exact moved.start request

/-- Every yard that requests and their cascades lead to is sound. -/
theorem sound_of_reached (reached : y.Reached) : y.Sound := by
  induction reached with
  | empty =>
    refine ⟨Registry.exact_empty, ?_, by simp⟩
    have nothing : (Registry.empty : Registry String Crate).allObjects = [] :=
      List.map_eq_nil_iff.mpr (Std.ExtTreeMap.toList_eq_nil_iff.mpr rfl)
    simp [census, waiting, nothing]
  | call request _ _ sound => exact sound.start request
  | step _ step sound => exact sound.step step

/-- No crate is in two places: it is stored, or waiting for its destructor, or destroyed. -/
theorem Sound.nodup (sound : y.Sound) :
    ((y.registry.allObjects ++ y.waiting ++ y.destroyed).map (·.id)).Nodup :=
  sound.census.nodup_iff.mpr List.nodup_range

/-- What an operation took out is not in the registry until it returns. -/
theorem Sound.out (sound : y.Sound) {batch : Batch} (going : batch ∈ y.batches) {crate : Crate}
    (taken : crate ∈ batch.begun ++ batch.waiting) : crate ∉ y.registry.allObjects := by
  intro stored
  have away : crate ∈ y.waiting ++ y.destroyed := by
    obtain begun | waits := List.mem_append.mp taken
    · exact List.mem_append_right _ (sound.begun batch going crate begun)
    · exact List.mem_append_left _ (List.mem_flatMap.mpr ⟨batch, going, waits⟩)
  have apart := sound.nodup
  rw [List.append_assoc, List.map_append] at apart
  exact List.disjoint_of_nodup_append apart (List.mem_map_of_mem stored) (List.mem_map_of_mem away)

theorem mem_allObjects {r : Registry String Crate} {crate : Crate} :
    crate ∈ r.allObjects ↔ ∃ name : String, r.objects[name]? = some crate := by
  simp [Registry.allObjects, Std.ExtTreeMap.mem_toList_iff_getElem?_eq_some]

theorem getElem?_enrol {r : Registry String Crate} {crate stored : Crate} {name n : String} {ns : Namespace}
    (there : (enrol r crate name ns).2.objects[n]? = some stored) :
    r.objects[n]? = none ∨ r.objects[n]? = some stored := by
  unfold enrol Registry.add at there
  by_cases used : r.contains name
  · rw [if_pos used] at there
    exact .inr there
  · rw [if_neg used] at there
    by_cases here : name = n
    · subst here
      exact .inl (by simpa [Registry.contains] using used)
    · exact .inr (by simpa [Std.ExtTreeMap.getElem?_insert, here] using there)

/-- A request fills free names only. What stands under any other name stood there before. -/
theorem getElem?_taking {request : Request String Parcel} {n : String} {crate : Crate}
    (stored : (y.taking request).2.objects[n]? = some crate) :
    y.registry.objects[n]? = none ∨ ∃ old, y.registry.objects[n]? = some old ∧ old.id = crate.id := by
  have kept : (y.registry.objects[n]? = none ∨ y.registry.objects[n]? = some crate) →
      y.registry.objects[n]? = none ∨ ∃ old, y.registry.objects[n]? = some old ∧ old.id = crate.id :=
    Or.imp_right fun there => ⟨crate, there, rfl⟩
  cases request with
  | add parcel name ns => exact kept (getElem?_enrol stored)
  | addCore parcel name => exact kept (getElem?_enrol stored)
  | write name f =>
    by_cases here : name = n
    · subst here
      cases found : y.registry.objects[name]? with
      | none => exact .inl rfl
      | some old =>
        have same : ({ old with parcel := f old.parcel } : Crate) = crate := by
          simpa [taking, Registry.modify, found] using stored
        exact .inr ⟨old, rfl, same ▸ rfl⟩
    · exact kept (.inr (by simpa [taking, Registry.modify, Std.ExtTreeMap.getElem?_modify, here] using stored))
  | remove name =>
    refine kept (.inr ?_)
    change (y.registry.remove name).2.objects[n]? = _ at stored
    obtain ⟨same, -⟩ | ⟨-, rest, -⟩ := y.registry.remove_eq name
    · rwa [same] at stored
    · rw [rest, Std.ExtTreeMap.getElem?_erase] at stored
      split at stored
      · cases stored
      · exact stored
  | clear =>
    have nothing : (Registry.empty : Registry String Crate).objects[n]? = none := by simp [Registry.empty]
    cases nothing.symm.trans stored
  | clearNamespace ns =>
    change (y.registry.clearNamespace ns).2.objects[n]? = _ at stored
    rw [Registry.objects_clearNamespace, Registry.getElem?_foldl_erase] at stored
    exact kept (.inr stored.2)
  | get | has | namespaceOf | names | allNames | size | isEmpty => exact kept (.inr stored)

/-- The names of what a request takes out are free before the first destructor begins. -/
theorem Sound.freed (sound : y.Sound) {request : Request String Parcel} {name : String} {crate : Crate}
    (stood : y.registry.objects[name]? = some crate) (taken : crate ∈ (y.taking request).1) :
    (y.taking request).2.objects[name]? = none := by
  cases left : (y.taking request).2.objects[name]? with
  | none => rfl
  | some other =>
    obtain free | ⟨old, same, id⟩ := getElem?_taking left
    · rw [free] at stood
      cases stood
    · obtain rfl := Option.some.inj (stood.symm.trans same)
      have started := sound.start request
      have waits : crate ∈ (y.start request).waiting := List.mem_append_left _ taken
      have stored : other ∈ (y.start request).registry.allObjects := mem_allObjects.mpr ⟨name, left⟩
      have apart := started.nodup
      rw [List.append_assoc, List.map_append] at apart
      have there := List.mem_map_of_mem (f := fun crate : Crate => crate.id) stored
      rw [← id] at there
      exact (List.disjoint_of_nodup_append apart there
        (List.mem_map_of_mem (List.mem_append_left _ waits))).elim

end Yard

end PluginHost
