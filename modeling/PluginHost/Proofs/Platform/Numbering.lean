import PluginHost.Proofs.Platform.Discovery
import PluginHost.Proofs.Platform.Errand
import PluginHost.Proofs.Platform.Interruption

namespace PluginHost

/-- Numbers given out one after the other, from the first to the one before the next. -/
def Consecutive (first next : PluginId) : List PluginId → Prop
  | [] => next = first
  | id :: ids => id = first ∧ Consecutive (first + 1) next ids

theorem Consecutive.append {first middle next : PluginId} {ids later : List PluginId}
    (one : Consecutive first middle ids) (two : Consecutive middle next later) :
    Consecutive first next (ids ++ later) := by
  induction ids generalizing first with
  | nil => exact (one : middle = first) ▸ two
  | cons id ids ih => exact ⟨one.1, ih one.2⟩

/-- Below the end of the counter consecutive numbers are consecutive numbers. -/
theorem Consecutive.toNat {first next : PluginId} {ids : List PluginId} (consecutive : Consecutive first next ids)
    (room : first.toNat + ids.length < 2 ^ 32) :
    ids.map (·.toNat) = List.range' first.toNat ids.length ∧ next.toNat = first.toNat + ids.length := by
  induction ids generalizing first with
  | nil => exact ⟨rfl, congrArg UInt32.toNat consecutive⟩
  | cons id ids ih =>
    obtain ⟨rfl, rest⟩ := consecutive
    rw [List.length_cons] at room
    have succ : (id + 1).toNat = id.toNat + 1 := toNat_succ (by omega)
    obtain ⟨numbers, last⟩ := ih rest (by omega)
    rw [List.map_cons, List.length_cons, List.range'_succ, numbers, succ]
    exact ⟨rfl, by omega⟩

variable {M : Type}

/-- The next plugin from a library shares its number with nobody. -/
theorem Paired.unshared {blocked : Std.ExtTreeSet String compare} {crew : List Member} {k : Catalogue M}
    (paired : Paired blocked crew k) :
    k.nextId ≠ 0 ∧ ∀ name info, k.info? name = some info → info.ns.pluginId ≠ k.nextId := by
  have positive := paired.numbered
  have nonzero : k.nextId ≠ 0 := by
    intro zero
    simp [zero] at positive
  refine ⟨nonzero, fun name info there same => ?_⟩
  by_cases static : info.origin = .static
  · rw [paired.compiled there static, Namespace.core, Namespace.pluginId_plugin] at same
    exact nonzero same.symm
  · obtain ⟨-, id, own, -, lt⟩ := paired.loaded there static
    rw [own, Namespace.pluginId_plugin] at same
    exact absurd lt (by simp [same])

namespace Platform

open Controller

variable [Manager M] {site : Site M} {path : Path} {paths : List Path} {p : Platform M} {crew : List Member}
  {blocked : Std.ExtTreeSet String compare}

/-- The numbers that plugins get from libraries which are loaded one after the other. -/
def numbersEach (site : Site M) (p : Platform M) : List Path → List PluginId
  | [] => []
  | path :: paths =>
    let run := Platform.load site path p
    match run.result with
    | .error _ => []
    | .ok (.error _) => numbersEach site run.state paths
    | .ok (.ok name) =>
      ((run.state.catalogue.namespaceOf? name).map (·.pluginId)).toList ++ numbersEach site run.state paths

def Errand.numbers (p : Platform M) : Errand M → List PluginId
  | load site path => numbersEach site p [path]
  | discover site => numbersEach site p (found site p)
  | _ => []

/-- The numbers that plugins get in the course of a run. -/
def numbers (p : Platform M) : List (Errand M) → List PluginId
  | [] => []
  | errand :: errands => errand.numbers p ++ numbers (errand.act p).state errands

/-- A plugin that is loaded gets the next number; otherwise the number is left for another. -/
theorem number_load (site : Site M) (path : Path) (p : Platform M) :
    let run := load site path p
    (∀ name, run.result = .ok (.ok name) → run.state.catalogue.namespaceOf? name = some (.plugin p.catalogue.nextId) ∧
      run.state.catalogue.nextId = p.catalogue.nextId + 1) ∧
    ((∀ name, run.result ≠ .ok (.ok name)) → run.state.catalogue.nextId = p.catalogue.nextId) := by
  intro run
  rcases roll_load site path p with ⟨same, nothing⟩ | ⟨info, loaded, entered, -, ns, -⟩
  · exact ⟨fun name ok => absurd ok (nothing name), fun _ => congrArg Roll.nextId same⟩
  · refine ⟨fun name ok => ?_, fun nothing => absurd loaded (nothing info.name)⟩
    obtain rfl : info.name = name := by
      have same := loaded.symm.trans ok
      injection same with same
      injection same
    have record := congrFun (congrArg Roll.record? entered) info.name
    rw [Roll.record?_enter, if_pos rfl] at record
    obtain ⟨stored, there, plain⟩ := Option.map_eq_some_iff.mp record
    refine ⟨?_, congrArg Roll.nextId entered⟩
    rw [Catalogue.namespaceOf?, Catalogue.info?, there]
    exact congrArg some ((congrArg (·.1.ns) plain).trans ns)

/-- Files one after the other take consecutive numbers, by induction on the files. -/
theorem consecutive_loadEach (site : Site M) (paths : List Path) (p : Platform M) :
    Consecutive p.catalogue.nextId (loadEach site paths p).state.catalogue.nextId (numbersEach site p paths) := by
  induction paths generalizing p with
  | nil => rfl
  | cons path paths ih =>
    obtain ⟨taken, left⟩ := number_load site path p
    have later := ih (load site path p).state
    rcases one : (load site path p).result with panic | error | name
    · rw [(loadEach_of_panic one paths).2, numbersEach, one]
      exact left (by simp [one])
    · rw [(loadEach_of_skipped one paths).2, numbersEach, one]
      rwa [left (by simp [one])] at later
    · obtain ⟨ns, next⟩ := taken name one
      rw [(loadEach_of_loaded one paths).2, numbersEach, one]
      simp only [ns, Option.map_some, Namespace.pluginId_plugin, Option.toList_some, List.singleton_append]
      exact ⟨rfl, next ▸ later⟩

/-- The registered plugins and managers are in pairs. -/
def InPairs (blocked : Std.ExtTreeSet String compare) (p : Platform M) : Prop :=
  ∃ crew, p.controller.Holds crew ∧ Paired blocked crew p.catalogue

/-- While the counter does not come round, files keep plugins and managers in pairs. -/
theorem InPairs.loadEach (pairs : InPairs blocked p)
    (room : p.catalogue.nextId.toNat + (numbersEach site p paths).length < 2 ^ 32) :
    InPairs blocked (loadEach site paths p).state := by
  induction paths generalizing p with
  | nil => exact pairs
  | cons path paths ih =>
    obtain ⟨crew, holds, paired⟩ := pairs
    obtain ⟨taken, left⟩ := number_load site path p
    rcases one : (load site path p).result with panic | error | name
    · have same := left (by simp [one])
      rw [(loadEach_of_panic one paths).2]
      exact (paired_load holds paired site path fun moved => absurd same moved).2
    · have same := left (by simp [one])
      rw [numbersEach, one] at room
      rw [(loadEach_of_skipped one paths).2]
      exact ih (paired_load holds paired site path fun moved => absurd same moved).2 (by rwa [same])
    · obtain ⟨ns, next⟩ := taken name one
      rw [numbersEach, one] at room
      simp only [ns, Option.map_some, Option.toList_some, List.singleton_append, List.length_cons] at room
      rw [(loadEach_of_loaded one paths).2]
      refine ih (paired_load holds paired site path fun _ => by omega).2 ?_
      rw [next, toNat_succ (by omega)]
      omega

theorem state_loadEach_singleton (site : Site M) (path : Path) (p : Platform M) :
    (loadEach site [path] p).state = (load site path p).state := by
  rcases one : (load site path p).result with panic | error | name
  · exact (loadEach_of_panic one []).2
  · exact (loadEach_of_skipped one []).2
  · exact (loadEach_of_loaded one []).2

/-- The step lemma: an errand keeps plugins and managers in pairs. -/
theorem InPairs.errand (pairs : InPairs blocked p) (errand : Errand M)
    (room : p.catalogue.nextId.toNat + (errand.numbers p).length < 2 ^ 32) : InPairs blocked (errand.act p).state := by
  -- where the counter does not move, its bound is of no account
  have bounded : p.Coupled blocked (2 ^ 32) := by
    obtain ⟨crew, holds, paired⟩ := pairs
    have bound := p.catalogue.nextId.toNat_lt
    exact ⟨crew, holds, paired, by omega⟩
  have loose : ∀ {q : Platform M}, q.Coupled blocked (2 ^ 32) → InPairs blocked q :=
    fun ⟨crew, holds, paired, _⟩ => ⟨crew, holds, paired⟩
  cases errand with
  | addStatic manager => exact loose ((couples_addStatic manager).either [] bounded)
  | load site path =>
    have loaded := pairs.loadEach room
    rwa [state_loadEach_singleton] at loaded
  | discover site =>
    have loaded := pairs.loadEach room
    rwa [← (discover_found site p).2] at loaded
  | unload name => exact loose ((couples_unload name).either [] bounded)
  | dispatch phase =>
    exact loose ((couples_onController fun holds => (dispatch_spec holds phase).1).either [] bounded)

/-- The step lemma: an errand takes the numbers from the next one on. -/
theorem consecutive_errand (holds : p.controller.Holds crew) (errand : Errand M) :
    Consecutive p.catalogue.nextId (errand.act p).state.catalogue.nextId (errand.numbers p) := by
  cases errand with
  | addStatic manager =>
    change (addStatic manager p).state.catalogue.nextId = _
    cases adding_addStatic holds manager with
    | ignored state => rw [state]
    | refused catalogue => rw [catalogue]
    | panicked panics catalogue => rw [catalogue]
    | accepted record compiled catalogue => rw [catalogue]; rfl
  | load site path =>
    have loaded := consecutive_loadEach site [path] p
    rwa [state_loadEach_singleton] at loaded
  | discover site =>
    have loaded := consecutive_loadEach site (found site p) p
    rwa [← (discover_found site p).2] at loaded
  | unload name =>
    change (unload name p).state.catalogue.nextId = _
    cases unloading_unload holds name with
    | ignored state => rw [state]
    | broken catalogue => rw [catalogue]
    | unloaded record there catalogue => rw [catalogue]; rfl
  | dispatch phase => rfl

/-- The run lemma for both, by induction on the errands. -/
theorem InPairs.run (pairs : InPairs blocked p) (errands : List (Errand M))
    (room : p.catalogue.nextId.toNat + (numbers p errands).length < 2 ^ 32) :
    InPairs blocked (Action.reached Errand.act p errands) ∧
      Consecutive p.catalogue.nextId (Action.reached Errand.act p errands).catalogue.nextId (numbers p errands) := by
  induction errands generalizing p with
  | nil => exact ⟨pairs, rfl⟩
  | cons errand errands ih =>
    rw [numbers, List.length_append] at room
    have next := pairs.errand errand (by omega)
    obtain ⟨crew, holds, -⟩ := pairs
    have first := consecutive_errand holds errand
    have moved := (first.toNat (by omega)).2
    obtain ⟨last, rest⟩ := ih next (by omega)
    exact ⟨last, first.append rest⟩

omit [Manager M] in
theorem called_of_summons {leaving : List Member} {plan : List (Member × Phase)} {e : Event}
    (known : ∀ step ∈ plan, step ∈ partings leaving) (summoned : e ∈ summons plan) :
    ∃ x ∈ leaving, ∃ hook, e = .called x.id hook := by
  obtain ⟨⟨x, phase⟩, planned, rfl⟩ := List.mem_map.mp summoned
  exact ⟨x, mem_of_partings (known _ planned), _, rfl⟩

/-- Unloading calls and destroys nobody but those in the namespace of the plugin. -/
theorem deed_of_unload (holds : p.controller.Holds crew) {name : String} {e : Event}
    (deed : e ∈ deeds (unload name p).trace) :
    (∃ library, e = .closed library) ∨
      ∃ record, p.catalogue.plugins[name]? = some record ∧ record.info.origin ≠ .static ∧
        ∃ x ∈ crew.filter fun x => record.info.ns.covers x.ns, (∃ hook, e = .called x.id hook) ∨ e = .destroyed x.id := by
  cases unloading_unload holds name with
  | ignored state trace => simp [trace] at deed
  | broken catalogue broken =>
    obtain ⟨panic, error⟩ := broken.panics
    have error : ((Drive.unload name).call.act p).result = .error panic := congrArg (Except.map _) error
    obtain ⟨done, step, rest, planned, breaks⟩ := (Drive.unload name).breaks holds error
    obtain ⟨-, -, -, trace⟩ := (Drive.unload name).interrupted holds planned breaks
    have called : e ∈ summons (done ++ [step]) := trace ▸ deed
    cases found : p.catalogue.plugins[name]? with
    | none => simp [Drive.plan, found] at planned
    | some record =>
      by_cases compiled : record.info.origin = .static
      · simp [Drive.plan, found, compiled] at planned
      · simp only [Drive.plan, found, compiled, if_false, holds.crew_eq] at planned
        rw [List.append_cons] at planned
        obtain ⟨x, leaving, heard⟩ := called_of_summons (fun _ => planned ▸ List.mem_append_left rest) called
        exact .inr ⟨record, rfl, compiled, x, leaving, .inl heard⟩
  | unloaded record found catalogue left offered gone perm trace dynamic =>
    rw [trace, List.mem_append, List.mem_append] at deed
    rcases deed with (called | destroyed) | closed
    · obtain ⟨x, leaving, heard⟩ := called_of_summons (fun _ => id) called
      exact .inr ⟨record, found, dynamic, x, leaving, .inl heard⟩
    · obtain ⟨id, taken, rfl⟩ := List.mem_map.mp destroyed
      obtain ⟨x, leaving, rfl⟩ := List.mem_map.mp (perm.mem_iff.mp taken)
      exact .inr ⟨record, found, dynamic, x, leaving, .inr rfl⟩
    · obtain ⟨library, -, rfl⟩ := List.mem_map.mp closed
      exact .inl ⟨library, rfl⟩

/-- Unloading does nothing to the manager of another plugin. -/
theorem unload_apart (holds : p.controller.Holds crew) (paired : Paired blocked crew p.catalogue) {name other : String}
    {info : PluginInfo} (there : p.catalogue.info? other = some info) (apart : other ≠ name) :
    let run := unload name p
    ∃ x ∈ p.controller.crew, x.key = info.manager ∧ x.ns = info.ns ∧
      (∀ hook, .called x.id hook ∉ run.trace) ∧ .destroyed x.id ∉ run.trace ∧ x ∈ run.state.controller.crew ∧
      run.state.catalogue.info? other = some info := by
  intro run
  obtain ⟨x, aboard, key, ns⟩ := paired.manned there
  have spared : ∀ record, p.catalogue.plugins[name]? = some record → record.info.origin ≠ .static →
      record.info.ns.covers x.ns = false := by
    intro record found dynamic
    have named : p.catalogue.info? name = some record.info := congrArg (Option.map _) found
    rw [ns, ← Bool.not_eq_true, paired.covers_iff named dynamic there]
    exact apart
  have quiet : ∀ e ∈ run.trace, (∃ hook, e = .called x.id hook) ∨ e = .destroyed x.id → False := by
    intro e heard mine
    have deed : e ∈ deeds run.trace := by
      refine mem_deeds.mpr ⟨heard, ?_⟩
      obtain ⟨hook, rfl⟩ | rfl := mine <;> rfl
    obtain ⟨library, rfl⟩ | ⟨record, found, dynamic, y, leaving, theirs⟩ := deed_of_unload holds deed
    · simp at mine
    · obtain ⟨member, covered⟩ := List.mem_filter.mp leaving
      have same : y.id = x.id := by
        obtain ⟨hook, rfl⟩ | rfl := mine <;> obtain ⟨hook', there⟩ | there := theirs <;> simp_all
      obtain rfl := List.inj_on_of_nodup_map holds.ids member aboard same
      simp [spared record found dynamic] at covered
  have left : x ∈ run.state.controller.crew ∧ run.state.catalogue.info? other = some info := by
    cases unloading_unload holds name with
    | ignored state =>
      rw [state]
      exact ⟨holds.crew_eq ▸ aboard, there⟩
    | broken catalogue broken => exact ⟨broken.holds.crew_eq ▸ aboard, catalogue ▸ there⟩
    | unloaded record found catalogue left offered gone perm trace dynamic =>
      refine ⟨left.crew_eq ▸ List.mem_filter.mpr ⟨aboard, by simp [spared record found dynamic]⟩, ?_⟩
      rw [catalogue, Catalogue.info?_remove, if_neg apart.symm, there]
  exact ⟨x, holds.crew_eq ▸ aboard, key, ns, fun hook called => quiet _ called (.inl ⟨hook, rfl⟩),
    fun destroyed => quiet _ destroyed (.inr rfl), left⟩

/-- As long as the counter does not come round, the plugins from libraries get the numbers from one on, one after
the other. So the next one shares its number with nobody, and no plugin takes the manager of another along. -/
theorem numbers_apart (holder : Holder) (config : PluginConfig) (pluginDir : Path) (errands : List (Errand M))
    (room : (numbers (fresh holder config pluginDir) errands).length + 1 < 2 ^ 32) :
    let given := numbers (fresh holder config pluginDir) errands
    let p := Action.reached Errand.act (fresh holder config pluginDir) errands
    given.map (·.toNat) = List.range' 1 given.length ∧ p.catalogue.nextId.toNat = given.length + 1 ∧
      (∀ name info, p.catalogue.info? name = some info →
        if info.origin = .static then info.ns = .core else ∃ id ∈ given, info.ns = .plugin id) ∧
      (∀ site path name, (load site path p).result = .ok (.ok name) →
        ∃ id, (load site path p).state.catalogue.namespaceOf? name = some (.plugin id) ∧ id ≠ 0 ∧
          ∀ other info, p.catalogue.info? other = some info → info.ns.pluginId ≠ id) ∧
      ∀ name other info, p.catalogue.info? other = some info → other ≠ name →
        let run := unload name p
        ∃ x ∈ p.controller.crew, x.key = info.manager ∧ x.ns = info.ns ∧
          (∀ hook, .called x.id hook ∉ run.trace) ∧ .destroyed x.id ∉ run.trace ∧ x ∈ run.state.controller.crew ∧
          run.state.catalogue.info? other = some info := by
  intro given p
  have start : InPairs config.blacklist (fresh holder config pluginDir : Platform M) :=
    ⟨[], holds_new holder, paired_fresh config pluginDir⟩
  have first : (fresh holder config pluginDir : Platform M).catalogue.nextId.toNat = 1 := rfl
  obtain ⟨⟨crew, holds, paired⟩, consecutive⟩ : InPairs config.blacklist p ∧ Consecutive 1 p.catalogue.nextId given :=
    start.run errands (by rw [first]; omega)
  obtain ⟨inOrder, last⟩ : given.map (·.toNat) = List.range' 1 given.length ∧
    p.catalogue.nextId.toNat = 1 + given.length := consecutive.toNat (by rw [Nat.add_comm]; exact room)
  refine ⟨inOrder, by omega, ?_, ?_, fun name other info there apart => unload_apart holds paired there apart⟩
  · intro name info there
    split
    · rename_i static
      exact paired.compiled there static
    · rename_i dynamic
      obtain ⟨-, id, own, nonzero, less⟩ := paired.loaded there dynamic
      have positive : 0 < id.toNat := Nat.pos_of_ne_zero fun zero => nonzero (UInt32.toNat_inj.mp zero)
      have between : id.toNat ∈ given.map (·.toNat) := by
        rw [inOrder, List.mem_range'_1]
        omega
      obtain ⟨id', member, same⟩ := List.mem_map.mp between
      exact ⟨id, UInt32.toNat_inj.mp same ▸ member, own⟩
  · intro site path name ok
    obtain ⟨nonzero, unshared⟩ := paired.unshared
    exact ⟨_, ((number_load site path p).1 name ok).1, nonzero, unshared⟩

/-- A plugin is unloaded and loaded again, between a plugin that is compiled in and another from a library. -/
theorem numbers_apart_clerk :
    let clerk : Scripted := { key := ⟨"desk::Clerk"⟩, label := "clerk" }
    let guard : Scripted := { key := ⟨"gate::Guard"⟩, label := "guard" }
    let porter : Scripted := { key := ⟨"gate::Porter"⟩, label := "porter" }
    let image : Image Scripted := ⟨fun symbol =>
      some (enter fun holder => ⟨.ok (if symbol = "LoadguardPluginX64" then guard else porter), holder, []⟩)⟩
    let site : Site Scripted := ⟨⟨fun _ => true, fun _ => .ok "", fun _ => none⟩, fun _ => .ok image⟩
    let holder : Holder := ⟨.empty, ⟨[]⟩, ⟨[]⟩, .off⟩
    let errands : List (Errand Scripted) :=
      [.addStatic clerk, .load site (.ofString "guard.so"), .load site (.ofString "porter.so"), .unload "guard"]
    let p := Action.reached Errand.act (fresh holder {} ⟨[]⟩) errands
    numbers (fresh holder {} ⟨[]⟩) errands = [1, 2] ∧ p.catalogue.nextId.toNat = 3 ∧
      (∃ id, (load site (.ofString "guard.so") p).state.catalogue.namespaceOf? "guard" = some (.plugin id) ∧ id ≠ 0) ∧
      ∃ x ∈ p.controller.crew, x.key = clerk.key ∧ .destroyed x.id ∉ (unload "porter" p).trace := by
  intro clerk guard porter image site holder errands p
  have given : numbers (fresh holder {} ⟨[]⟩) errands = [1, 2] := by decide +kernel
  obtain ⟨-, next, -, fresh, safe⟩ := numbers_apart holder {} ⟨[]⟩ errands (by rw [given]; decide)
  rw [given] at next
  obtain ⟨id, own, nonzero, -⟩ := fresh site (.ofString "guard.so") "guard" (by decide +kernel)
  obtain ⟨x, aboard, key, -, -, spared, -⟩ :=
    safe "porter" "Clerk" ⟨"Clerk", .core, clerk.key, .static⟩ (by decide +kernel) (by decide)
  exact ⟨given, next, ⟨id, own, nonzero⟩, x, aboard, key, spared⟩

/-- A manager that takes no notice of any hook. -/
structure Idle where
  key : TypeKey

instance : Manager Idle where
  concrete m := m.key
  claimed m := m.key
  hook _ m holder := ⟨m, holder, [], none⟩
  destroy _ := []

theorem gentle_idle : Manager.Gentle Idle := fun _ _ _ => rfl

/-- One plugin stays and another is loaded over and over. It gets the number of what is compiled in after the last
number that there is, and the number of the plugin that stayed after that, whose manager goes when it is unloaded. -/
theorem numbers_recur :
    let clerk : Idle := ⟨⟨"desk::Clerk"⟩⟩
    let guard : Idle := ⟨⟨"gate::Guard"⟩⟩
    let image : Image Idle := ⟨fun symbol =>
      some (enter fun holder => ⟨.ok (if symbol = "LoadclerkPluginX64" then clerk else guard), holder, []⟩)⟩
    let site : Site Idle := ⟨⟨fun _ => true, fun _ => .ok "", fun _ => none⟩, fun _ => .ok image⟩
    let after (n : Nat) : Platform Idle := Action.reached Errand.act (fresh ⟨.empty, ⟨[]⟩, ⟨[]⟩, .off⟩ {} ⟨[]⟩)
      (.load site (.ofString "clerk.so") :: rounds site (.ofString "guard.so") "guard" n ++
        [.load site (.ofString "guard.so")])
    (after (2 ^ 32 - 2)).catalogue.namespaceOf? "guard" = some .core ∧
      let p := after (2 ^ 32 - 1)
      p.catalogue.namespaceOf? "clerk" = some (.plugin 1) ∧ p.catalogue.namespaceOf? "guard" = some (.plugin 1) ∧
        ∃ x ∈ p.controller.crew, x.key = clerk.key ∧ .destroyed x.id ∈ (unload "guard" p).trace := by
  intro clerk guard image site after
  have start : Settled [] ∅ ∅ 1 (fresh ⟨.empty, ⟨[]⟩, ⟨[]⟩, .off⟩ {} ⟨[]⟩ : Platform Idle) :=
    ⟨holds_new _, rfl, rfl, rfl⟩
  have lendsClerk : Lends site (.ofString "clerk.so") "clerk" clerk.key :=
    ⟨by decide +kernel, image, _, rfl, rfl, fun holder => ⟨_, rfl, rfl⟩⟩
  have lendsGuard : Lends site (.ofString "guard.so") "guard" guard.key :=
    ⟨by decide +kernel, image, _, rfl, rfl, fun holder => ⟨_, rfl, rfl⟩⟩
  obtain ⟨library, id, stays⟩ := start.load gentle_idle lendsClerk (by simp) (by simp) (by simp)
  let x : Member := ⟨clerk.key, id, .plugin 1⟩
  let record : PluginRecord Idle := ⟨⟨"clerk", .plugin 1, clerk.key, .dynamic (.ofString "clerk.so")⟩, some library⟩
  have vacant : guard.key ∉ [x].map (·.key) := by simp [x, clerk, guard]
  -- the guard is numbered from two on, and meets the number of the clerk only when the counter has come round
  have again : ∀ n < 2 ^ 32, ∃ library' id', Settled [x, ⟨guard.key, id', .plugin (.ofNat (2 + n))⟩]
      ((Std.ExtTreeMap.insert ∅ "clerk" record).insert "guard"
        ⟨⟨"guard", .plugin (.ofNat (2 + n)), guard.key, .dynamic (.ofString "guard.so")⟩, some library'⟩)
      ∅ (.ofNat (2 + n) + 1) (after n) := by
    intro n less
    refine Settled.after_rounds (k := 2) gentle_idle stays lendsGuard (by simp) (by simp) vacant n ?_
    intro i before y member same
    obtain rfl := List.mem_singleton.mp member
    have numbers := congrArg UInt32.toNat same
    rw [Namespace.pluginId_plugin, UInt32.toNat_ofNat'] at numbers
    have one : (1 : UInt32).toNat = 1 := rfl
    omega
  obtain ⟨_, _, first⟩ := again (2 ^ 32 - 2) (by decide)
  obtain ⟨library', id', second⟩ := again (2 ^ 32 - 1) (by decide)
  have core : Namespace.plugin (.ofNat (2 + (2 ^ 32 - 2))) = .core := congrArg Namespace.plugin (by decide)
  have one : Namespace.plugin (.ofNat (2 + (2 ^ 32 - 1))) = .plugin 1 := congrArg Namespace.plugin (by decide)
  refine ⟨?_, ?_, ?_, x, ?_, rfl, ?_⟩
  · rw [Catalogue.namespaceOf?, Catalogue.info?, first.plugins, Std.ExtTreeMap.getElem?_insert_self]
    exact congrArg some core
  · rw [Catalogue.namespaceOf?, Catalogue.info?, second.plugins, Std.ExtTreeMap.getElem?_insert,
      if_neg (by decide +kernel), Std.ExtTreeMap.getElem?_insert_self]
    rfl
  · rw [Catalogue.namespaceOf?, Catalogue.info?, second.plugins, Std.ExtTreeMap.getElem?_insert_self]
    exact congrArg some one
  · rw [second.holds.crew_eq]
    exact List.mem_cons_self
  · refine (second.unload gentle_idle Std.ExtTreeMap.getElem?_insert_self (by simp)).2 x List.mem_cons_self ?_
    rw [one]
    exact Namespace.covers_self _

end Platform

end PluginHost
