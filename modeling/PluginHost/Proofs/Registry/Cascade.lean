import Mathlib.Logic.Relation
import PluginHost.Proofs.Registry.Yard

namespace PluginHost

theorem Parcel.weight_pos (parcel : Parcel) : 0 < parcel.weight := by
  cases parcel <;> simp [Parcel.weight]

namespace Yard

variable {y z : Yard}

/-- The weight of a list of crates. -/
def bulk (crates : List Crate) : Nat := parcelsWeight (crates.map Crate.parcel)

theorem bulk_cons (crate : Crate) (crates : List Crate) :
    bulk (crate :: crates) = crate.parcel.weight + bulk crates := rfl

theorem bulk_append (crates others : List Crate) : bulk (crates ++ others) = bulk crates + bulk others := by
  simp [bulk, Depot.parcelsWeight_append]

theorem bulk_perm {crates others : List Crate} (same : crates.Perm others) : bulk crates = bulk others :=
  Depot.parcelsWeight_perm (same.map _)

/-- How much of a cascade is left: what is stored or waits, with what its destructors carry, counts double,
since the end of an operation that a destructor began is a step too. -/
def size (y : Yard) : Nat := 2 * bulk (y.registry.allObjects ++ y.waiting) + y.batches.length

/-- A destructor that asks for something is used up by that, so what is there and what waits weigh one less. -/
theorem bulk_taking (y : Yard) {parcel : Parcel} {request : Request String Parcel}
    (asked : parcel.request? = some request) :
    bulk ((y.taking request).1 ++ (y.taking request).2.allObjects) + 1 =
      parcel.weight + bulk y.registry.allObjects := by
  cases parcel with
  | inert v => cases asked
  | removing v name =>
    cases asked
    rw [taking, ← bulk_perm (y.registry.remove_perm name), Parcel.weight, Nat.add_comm]
  | adding v name ns load =>
    cases asked
    rw [taking, bulk_perm (enrol_perm ..), bulk_cons, Parcel.weight]
    exact Nat.add_right_comm ..

/-- What a destructor starts is smaller than what it took away by running. -/
theorem size_start (y : Yard) {parcel : Parcel} {request : Request String Parcel}
    (asked : parcel.request? = some request) :
    (y.start request).size < y.size + 2 * parcel.weight := by
  have taken := bulk_taking y asked
  have waiting : (y.start request).waiting = (y.taking request).1 ++ y.waiting := by simp [start, waiting]
  have registry : (y.start request).registry = (y.taking request).2 := rfl
  have batches : (y.start request).batches.length = y.batches.length + 1 := rfl
  simp only [size, waiting, registry, batches, bulk_append] at taken ⊢
  omega

/-- The step lemma: every step makes a yard smaller, so that no cascade goes on for ever. -/
theorem size_lt_of_step (step : Step y z) : z.size < y.size := by
  cases step with
  | finish open_ => simp [size, waiting, open_]
  | @destroy begun before after crate rest open_ =>
    have lighter : size { y with
        batches := ⟨crate :: begun, before ++ after⟩ :: rest
        destroyed := y.destroyed ++ [crate] } + 2 * crate.parcel.weight = y.size := by
      have whole : bulk (before ++ crate :: after) = bulk (crate :: (before ++ after)) :=
        bulk_perm List.perm_middle
      simp only [size, waiting, open_, List.flatMap_cons, List.length_cons, bulk_append, bulk_cons] at whole ⊢
      omega
    have heavy := crate.parcel.weight_pos
    cases asked : crate.parcel.request? with
    | none =>
      change size { y with batches := _, destroyed := _ } < y.size
      omega
    | some request =>
      have served := size_start { y with
        batches := ⟨crate :: begun, before ++ after⟩ :: rest
        destroyed := y.destroyed ++ [crate] } asked
      exact Nat.lt_of_lt_of_eq served lighter

/-- No cascade goes on for ever. -/
theorem wellFounded_step : WellFounded fun z y => Step y z :=
  Subrelation.wf size_lt_of_step (measure size).wf

/-- A cascade stops only when every operation has returned. -/
theorem exists_step (going : y.batches ≠ []) : ∃ z, Step y z := by
  cases open_ : y.batches with
  | nil => exact absurd open_ going
  | cons batch rest =>
    obtain ⟨begun, _ | ⟨crate, after⟩⟩ := batch
    · exact ⟨_, .finish open_⟩
    · exact ⟨_, @Step.destroy y begun [] after crate rest open_⟩

end Yard

namespace Depot

/-- A destructor that adds an object goes on in a depot with that object. -/
theorem destroyAll_adding_of_ok {r next : Depot} {load : Parcel} {name : String} {ns : Namespace}
    (accepted : r.add load name ns = .ok next) (v : Int) (rest : List Parcel) :
    destroyAll r (.adding v name ns load :: rest) = (destroyAll next rest).afterDestroying v := by
  rw [destroyAll]
  split
  · rename_i other same
    rw [accepted] at same
    cases same
    rfl
  · rename_i back same
    rw [accepted] at same
    cases same

/-- An object that is refused is destroyed next. -/
theorem destroyAll_adding_of_error {r : Depot} {load back : Parcel} {name : String} {ns : Namespace}
    (refused : r.add load name ns = .error back) (v : Int) (rest : List Parcel) :
    destroyAll r (.adding v name ns load :: rest) =
      ((destroyAll r (back :: rest)).afterLogging (refusal name ns)).afterDestroying v := by
  rw [destroyAll]
  split
  · rename_i other same
    rw [refused] at same
    cases same
  · rename_i other same
    rw [refused] at same
    cases same
    rfl

/-- What is destroyed first leaves the registry in which the others are destroyed. -/
theorem destroyAll_append (r : Depot) (ps qs : List Parcel) :
    (destroyAll r (ps ++ qs)).depot = (destroyAll (destroyAll r ps).depot qs).depot ∧
      (destroyAll r (ps ++ qs)).destroyed =
        (destroyAll r ps).destroyed ++ (destroyAll (destroyAll r ps).depot qs).destroyed := by
  induction r, ps using destroyAll.induct with
  | case1 r => simp [destroyAll]
  | case2 r v rest ih => simpa [destroyAll, Aftermath.afterDestroying] using ih
  | case3 r v name rest lighter ih => simpa [destroyAll, Aftermath.afterDestroying] using ih
  | case4 r v name ns load rest next accepted heavier ih =>
    simpa [destroyAll_adding_of_ok accepted, Aftermath.afterDestroying] using ih
  | case5 r v name ns load rest back refused same ih =>
    simpa [destroyAll_adding_of_error refused, Aftermath.afterDestroying, Aftermath.afterLogging] using ih

/-- What a request leaves when its destructors have run. -/
def perform (r : Depot) : Request String Parcel → Aftermath
  | .add parcel name ns => (r.offer parcel name ns).2
  | .addCore parcel name => (r.offer parcel name .core).2
  | .remove name => (r.discard name).2
  | .clear => r.discardAll
  | .clearNamespace ns => r.discardNamespace ns
  | request => { depot := (r.serve request).2 }

/-- What a destructor leaves. -/
def unpack (r : Depot) (parcel : Parcel) : Aftermath := parcel.request?.elim { depot := r } r.perform

/-- Objects are destroyed in turn, each with the cascade of its own. -/
theorem destroyAll_cons (r : Depot) (parcel : Parcel) (rest : List Parcel) :
    (destroyAll r (parcel :: rest)).depot = (destroyAll (r.unpack parcel).depot rest).depot ∧
      (destroyAll r (parcel :: rest)).destroyed =
        parcel.val :: (r.unpack parcel).destroyed ++
          (destroyAll (r.unpack parcel).depot rest).destroyed := by
  cases parcel with
  | inert v => simp [destroyAll, unpack, Parcel.request?, Aftermath.afterDestroying, Parcel.val]
  | removing v name =>
    obtain ⟨depot, destroyed⟩ := destroyAll_append (r.remove name).2 (r.remove name).1.toList rest
    simp [destroyAll, unpack, Parcel.request?, Aftermath.afterDestroying, Parcel.val, perform, discard,
      depot, destroyed]
  | adding v name ns load =>
    cases added : r.add load name ns with
    | ok next =>
      simp [destroyAll_adding_of_ok added, unpack, Parcel.request?, Aftermath.afterDestroying, Parcel.val,
        perform, offer, added]
    | error back =>
      obtain ⟨depot, destroyed⟩ := destroyAll_append r [back] rest
      simp only [List.singleton_append] at depot destroyed
      simp [destroyAll_adding_of_error added, unpack, Parcel.request?, Aftermath.afterDestroying,
        Aftermath.afterLogging, Parcel.val, perform, offer, added, depot, destroyed]

end Depot

namespace Yard

variable {y z : Yard}

/-- The registry without the numbers. -/
def depot (y : Yard) : Depot := y.registry.mapObjects Crate.parcel

/-- The values of the destroyed objects, in order. -/
def values (y : Yard) : List Int := y.destroyed.map (·.parcel.val)

theorem enrol_depot (r : Registry String Crate) (crate : Crate) (name : String) (ns : Namespace) :
    let outcome := (Depot.offer (r.mapObjects Crate.parcel) crate.parcel name ns).2
    let last := Depot.destroyAll ((enrol r crate name ns).2.mapObjects Crate.parcel)
      ((enrol r crate name ns).1.map Crate.parcel)
    outcome.depot = last.depot ∧ outcome.destroyed = last.destroyed := by
  have added := Registry.add_mapObjects Crate.parcel r crate name ns
  cases same : r.add crate name ns with
  | ok next =>
    rw [same] at added
    simp [Depot.offer, enrol, same, added, Except.mapError, Except.map, Depot.destroyAll]
  | error back =>
    rw [same] at added
    simp [Depot.offer, enrol, same, added, Except.mapError, Except.map, Depot.Aftermath.afterLogging]

/-- A depot takes out and puts in what the yard does, and destroys it in turn. -/
theorem perform_eq (y : Yard) (request : Request String Parcel) :
    let last := Depot.destroyAll ((y.taking request).2.mapObjects Crate.parcel)
      ((y.taking request).1.map Crate.parcel)
    (y.depot.perform request).depot = last.depot ∧ (y.depot.perform request).destroyed = last.destroyed := by
  cases request with
  | add parcel name ns => exact enrol_depot y.registry ⟨y.made, parcel⟩ name ns
  | addCore parcel name => exact enrol_depot y.registry ⟨y.made, parcel⟩ name .core
  | write name f =>
    have written := Registry.modify_mapObjects Crate.parcel y.registry (f := f)
      (h := fun crate => { crate with parcel := f crate.parcel }) (fun _ => rfl) name
    simp [Depot.perform, Registry.serve, taking, Depot.destroyAll, depot, written]
  | remove name =>
    have removed := Registry.remove_mapObjects Crate.parcel y.registry name
    cases taken : (y.registry.remove name).1 <;>
      simp [Depot.perform, Depot.discard, taking, depot, removed, taken]
  | clear =>
    have emptied : (Registry.empty : Registry String Crate).mapObjects Crate.parcel = .empty := by
      have objects : (∅ : Std.ExtTreeMap String Crate compare).map (fun _ crate => crate.parcel) = ∅ := by
        apply Std.ExtTreeMap.ext_getElem?
        simp
      simp only [Registry.mapObjects, Registry.empty, objects]
    simp [Depot.perform, Depot.discardAll, Registry.clear, taking, depot, Registry.allObjects_mapObjects,
      emptied]
  | clearNamespace ns =>
    have cleared := Registry.clearNamespace_mapObjects Crate.parcel y.registry ns
    simp [Depot.perform, Depot.discardNamespace, Depot.Aftermath.afterLogging, taking, depot, cleared]
  | get | has | namespaceOf | names | allNames | size | isEmpty =>
    simp [Depot.perform, Registry.serve, taking, Depot.destroyAll, depot]

theorem size_le_of_steps (steps : Relation.ReflTransGen Step y z) : z.size ≤ y.size := by
  induction steps with
  | refl => exact Nat.le_refl _
  | tail _ step le => exact Nat.le_trans (Nat.le_of_lt (size_lt_of_step step)) le

/-- The executable destruction is one order among those of a cascade. -/
theorem exists_steps_destroyAll {begun ws : List Crate} {rest : List Batch}
    (going : y.batches = ⟨begun, ws⟩ :: rest) :
    ∃ z, Relation.ReflTransGen Step y z ∧ z.batches = rest ∧
      z.depot = (Depot.destroyAll y.depot (ws.map Crate.parcel)).depot ∧
      z.values = y.values ++ (Depot.destroyAll y.depot (ws.map Crate.parcel)).destroyed := by
  -- a destructor's own operation comes to its end before the next object's turn, and is a cascade as well
  induction left : y.size using Nat.strong_induction_on generalizing y begun ws rest with
  | _ n ih =>
    subst left
    cases ws with
    | nil => exact ⟨_, .single (.finish going), rfl, by simp [Depot.destroyAll, depot, values]⟩
    | cons crate after =>
      obtain ⟨whole, order⟩ := Depot.destroyAll_cons y.depot crate.parcel (after.map Crate.parcel)
      have step := @Step.destroy y begun [] after crate rest going
      have rest_of : ∀ {w : Yard}, Relation.ReflTransGen Step y w → w.size < y.size →
          w.batches = ⟨crate :: begun, after⟩ :: rest → w.depot = (y.depot.unpack crate.parcel).depot →
          w.values = y.values ++ crate.parcel.val :: (y.depot.unpack crate.parcel).destroyed →
          ∃ z, Relation.ReflTransGen Step y z ∧ z.batches = rest ∧
            z.depot = (Depot.destroyAll y.depot ((crate :: after).map Crate.parcel)).depot ∧
            z.values = y.values ++ (Depot.destroyAll y.depot ((crate :: after).map Crate.parcel)).destroyed := by
        intro w steps lt batches same values
        obtain ⟨z, more, done, registry, destroyed⟩ := ih _ lt batches rfl
        rw [same] at registry destroyed
        refine ⟨z, steps.trans more, done, registry.trans whole.symm, ?_⟩
        rw [destroyed, values, List.map_cons, order]
        simp
      cases asked : crate.parcel.request? with
      | none =>
        rw [asked] at step
        refine rest_of (.single step) (size_lt_of_step step) rfl ?_ ?_
        · simp [Depot.unpack, asked, depot]
        · simp [Depot.unpack, asked, values]
      | some request =>
        rw [asked] at step
        have lt := size_lt_of_step step
        obtain ⟨w, steps, batches, registry, destroyed⟩ := ih _ lt rfl rfl
        obtain ⟨left, gone⟩ := perform_eq y request
        have unpacked : y.depot.unpack crate.parcel = y.depot.perform request := by
          simp [Depot.unpack, asked]
        refine rest_of (.head step steps) (Nat.lt_of_le_of_lt (size_le_of_steps steps) lt) batches ?_ ?_
        · rw [unpacked, left]
          exact registry
        · rw [unpacked, gone, destroyed, List.append_cons y.values]
          exact congrArg (· ++ _) List.map_append

/-- Once every operation has returned, every object is stored under one name, or destroyed once. -/
theorem Sound.settled (sound : y.Sound) (idle : y.batches = []) {id : Nat} (made : id < y.made) :
    (∃! name : String, ∃ crate, y.registry.objects[name]? = some crate ∧ crate.id = id) ∧
        (∀ crate ∈ y.destroyed, crate.id ≠ id) ∨
      (∀ crate ∈ y.registry.allObjects, crate.id ≠ id) ∧ (y.destroyed.map (·.id)).count id = 1 := by
  have once : (y.registry.allObjects.map (·.id)).count id + (y.destroyed.map (·.id)).count id = 1 := by
    have whole := sound.census.count_eq id
    rw [List.count_eq_one_of_mem List.nodup_range (List.mem_range.mpr made)] at whole
    simpa [Yard.census, waiting, idle] using whole
  have nodup : (y.registry.allObjects.map (·.id)).Nodup :=
    sound.nodup.sublist (by simp [List.append_assoc])
  cases stored : (y.registry.allObjects.map (·.id)).count id with
  | zero =>
    refine .inr ⟨fun crate member same => ?_, by omega⟩
    exact List.count_eq_zero.mp stored (List.mem_map.mpr ⟨crate, member, same⟩)
  | succ n =>
    refine .inl ⟨?_, fun crate member same => ?_⟩
    · have held : id ∈ y.registry.allObjects.map (·.id) := List.count_pos_iff.mp (by omega)
      obtain ⟨crate, member, same⟩ := List.mem_map.mp held
      obtain ⟨name, there⟩ := mem_allObjects.mp member
      refine ⟨name, ⟨crate, there, same⟩, ?_⟩
      rintro other ⟨twin, under, alike⟩
      rw [Registry.allObjects, List.map_map] at nodup
      have entries := List.inj_on_of_nodup_map nodup
        (Std.ExtTreeMap.mem_toList_iff_getElem?_eq_some.mpr under)
        (Std.ExtTreeMap.mem_toList_iff_getElem?_eq_some.mpr there) (alike.trans same.symm)
      exact congrArg Prod.fst entries
    · have gone : (y.destroyed.map (·.id)).count id = 0 := by omega
      exact List.count_eq_zero.mp gone (List.mem_map.mpr ⟨crate, member, same⟩)

/-- Where destructors call back into the registry, they find it whole and without anything that the
same operation took out, every cascade ends, and every object is stored under one name or destroyed once
by then. -/
theorem cascades_settle (reached : y.Reached) :
    y.registry.Exact ∧
      (∀ batch ∈ y.batches, ∀ crate ∈ batch.begun ++ batch.waiting, crate ∉ y.registry.allObjects) ∧
      (∀ request name crate, y.registry.objects[name]? = some crate → crate ∈ (y.taking request).1 →
        ∀ other ns, ∃ next, (y.start request).registry.add other name ns = .ok next) ∧
      (∀ request, Acc (fun z y => Step y z) (y.start request)) ∧
      (y.batches ≠ [] → ∃ z, Step y z) ∧
      (y.batches = [] → ∀ id < y.made,
        (∃! name : String, ∃ crate, y.registry.objects[name]? = some crate ∧ crate.id = id) ∧
            (∀ crate ∈ y.destroyed, crate.id ≠ id) ∨
          (∀ crate ∈ y.registry.allObjects, crate.id ≠ id) ∧ (y.destroyed.map (·.id)).count id = 1) ∧
      ∀ request, ∃ z, Relation.ReflTransGen Step (y.start request) z ∧ z.batches = y.batches ∧
        z.depot = (y.depot.perform request).depot ∧
        z.values = y.values ++ (y.depot.perform request).destroyed := by
  have sound := sound_of_reached reached
  refine ⟨sound.exact, fun batch going crate taken => sound.out going taken, ?_,
    fun request => wellFounded_step.apply _, exists_step, ?_, ?_⟩
  · intro request name crate stood taken other ns
    have free : (y.start request).registry.contains name = false :=
      (Std.ExtTreeMap.contains_eq_isSome_getElem?).trans (by rw [start, sound.freed stood taken]; rfl)
    exact ⟨_, if_neg (by simp [free])⟩
  · exact fun idle id made => sound.settled idle made
  · intro request
    obtain ⟨left, gone⟩ := perform_eq y request
    obtain ⟨z, steps, batches, registry, destroyed⟩ := exists_steps_destroyAll (y := y.start request) rfl
    exact ⟨z, steps, batches, registry.trans left.symm, destroyed.trans (congrArg _ gone.symm)⟩

/-- A destructor that adds an object under the name that has just become free. -/
theorem cascades_settle_readded :
    let y : Yard := { start {} (.add (.adding 1 "a" .core (.inert 2)) "a" .core) with batches := [] }
    y.Reached ∧ y.registry.contains "a" ∧
      ∀ other ns, ∃ next, (y.start (.remove "a")).registry.add other "a" ns = .ok next := by
  intro y
  have reached : y.Reached := .step (.call _ .empty rfl) (.finish rfl)
  have stood : y.registry.objects["a"]? = some ⟨0, .adding 1 "a" .core (.inert 2)⟩ := by decide +kernel
  have taken : ⟨0, .adding 1 "a" .core (.inert 2)⟩ ∈ (y.taking (.remove "a")).1 := by decide +kernel
  exact ⟨reached, by decide +kernel, (cascades_settle reached).2.2.1 _ _ _ stood taken⟩

end Yard

end PluginHost
