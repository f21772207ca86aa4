import PluginHost.Proofs.Registry.Exact
import PluginHost.Registry.Race

namespace PluginHost

/-- A list in which lists are merged, each in its own order. -/
inductive Interleaves {α : Type} : List (List α) → List α → Prop
  | done {threads : List (List α)} : (∀ thread ∈ threads, thread = []) → Interleaves threads []
  | next {before after : List (List α)} {first : α} {rest merged : List α} :
      Interleaves (before ++ rest :: after) merged →
      Interleaves (before ++ (first :: rest) :: after) (first :: merged)

theorem Interleaves.perm {α : Type} {threads : List (List α)} {merged : List α}
    (interleaves : Interleaves threads merged) : merged.Perm threads.flatten := by
  induction interleaves with
  | done finished => rw [List.flatten_eq_nil_iff.mpr finished]
  | @next before after first rest merged _ ih =>
    have moved : (first :: (before ++ rest :: after).flatten).Perm
        (before ++ (first :: rest) :: after).flatten := by
      have middle : (before.flatten ++ first :: (rest ++ after.flatten)).Perm
          (first :: (before.flatten ++ (rest ++ after.flatten))) := List.perm_middle
      simpa using middle.symm
    exact (ih.cons first).trans moved

/-- A thread that registers objects, one after the other, in a namespace of its own. -/
structure Contender (N T : Type) where
  ns : Namespace
  calls : List (N × T)

def Contender.bids {N T : Type} (c : Contender N T) : List (Bid N T) :=
  c.calls.map fun (name, object) => ⟨name, c.ns, object⟩

namespace Registry

variable {N T : Type} [Ord N] [Std.TransOrd N] {r : Registry N T} {bid : Bid N T} {bids : List (Bid N T)}

theorem settle_of_taken (taken : r.contains bid.name) (bids : List (Bid N T)) :
    r.settle (bid :: bids) = r.settle bids := by
  simp [settle, add, taken]

theorem settle_of_free (free : ¬ r.contains bid.name) (bids : List (Bid N T)) :
    r.settle (bid :: bids) = (((r.file bid.object bid.name bid.ns).settle bids).1 + 1,
      ((r.file bid.object bid.name bid.ns).settle bids).2) := by
  simp [settle, add, free]

/-- The calls that are accepted, in order. -/
def accepted (r : Registry N T) : List (Bid N T) → List (Bid N T)
  | [] => []
  | bid :: rest =>
    match r.add bid.object bid.name bid.ns with
    | .error _ => r.accepted rest
    | .ok next => bid :: next.accepted rest

theorem accepted_of_taken (taken : r.contains bid.name) (bids : List (Bid N T)) :
    r.accepted (bid :: bids) = r.accepted bids := by
  simp [accepted, add, taken]

theorem accepted_of_free (free : ¬ r.contains bid.name) (bids : List (Bid N T)) :
    r.accepted (bid :: bids) = bid :: (r.file bid.object bid.name bid.ns).accepted bids := by
  simp [accepted, add, free]

/-- Bids are settled one after another, so two lists of them may be settled in two goes. -/
theorem settle_append (r : Registry N T) (first second : List (Bid N T)) :
    (r.settle (first ++ second)).2 = ((r.settle first).2.settle second).2 := by
  induction first generalizing r with
  | nil => rfl
  | cons bid first ih =>
    rw [List.cons_append]
    by_cases taken : r.contains bid.name
    · rw [settle_of_taken taken, settle_of_taken taken, ih]
    · rw [settle_of_free taken, settle_of_free taken, ih]

/-- As many bids are accepted as the settling counts. -/
theorem length_accepted (r : Registry N T) (bids : List (Bid N T)) :
    (r.accepted bids).length = (r.settle bids).1 := by
  induction bids generalizing r with
  | nil => rfl
  | cons bid bids ih =>
    by_cases taken : r.contains bid.name
    · rw [settle_of_taken taken, accepted_of_taken taken, ih]
    · rw [settle_of_free taken, accepted_of_free taken, List.length_cons, ih]

/-- The registry grows by one name for every bid accepted. -/
theorem size_settle (r : Registry N T) (bids : List (Bid N T)) :
    (r.settle bids).2.size = r.size + (r.settle bids).1 := by
  induction bids generalizing r with
  | nil => rfl
  | cons bid bids ih =>
    by_cases taken : r.contains bid.name
    · rw [settle_of_taken taken, ih]
    · have larger : (r.file bid.object bid.name bid.ns).size = r.size + 1 := by
        have free : bid.name ∉ r.objects := by simpa [contains] using taken
        simp [size, Std.ExtTreeMap.size_insert, free]
      rw [settle_of_free taken, ih, larger]
      omega

variable [Std.LawfulEqOrd N]

theorem contains_of_file (r : Registry N T) (object : T) (name : N) (ns : Namespace) (n : N) :
    (r.file object name ns).contains n ↔ name = n ∨ r.contains n := by
  simp [contains]

/-- A name is won by a call for it unless it is taken, and no name is won twice. -/
theorem names_accepted (r : Registry N T) (bids : List (Bid N T)) :
    ((r.accepted bids).map (·.name)).Nodup ∧
      ∀ name, name ∈ (r.accepted bids).map (·.name) ↔ name ∈ bids.map (·.name) ∧ ¬ r.contains name := by
  induction bids generalizing r with
  | nil => exact ⟨List.nodup_nil, fun name => by simp [accepted]⟩
  | cons bid bids ih =>
    by_cases taken : r.contains bid.name
    · obtain ⟨nodup, won⟩ := ih r
      rw [accepted_of_taken taken]
      refine ⟨nodup, fun name => (won name).trans ?_⟩
      have other : ¬ r.contains name → name ≠ bid.name := fun free same => free (same ▸ taken)
      rw [List.map_cons, List.mem_cons]
      grind
    · obtain ⟨nodup, won⟩ := ih (r.file bid.object bid.name bid.ns)
      rw [accepted_of_free taken, List.map_cons]
      refine ⟨List.nodup_cons.mpr ⟨fun again => ?_, nodup⟩, fun name => ?_⟩
      · exact ((won bid.name).mp again).2 ((contains_of_file ..).mpr (.inl rfl))
      · rw [List.mem_cons, won name, contains_of_file, List.map_cons, List.mem_cons]
        grind

/-- After the settling there are the names of before and every name that was bid for. -/
theorem contains_settle (r : Registry N T) (bids : List (Bid N T)) (name : N) :
    (r.settle bids).2.contains name ↔ r.contains name ∨ name ∈ bids.map (·.name) := by
  induction bids generalizing r with
  | nil => simp [settle]
  | cons bid bids ih =>
    rw [List.map_cons, List.mem_cons]
    by_cases taken : r.contains bid.name
    · rw [settle_of_taken taken, ih]
      have there : name = bid.name → r.contains name := fun same => same ▸ taken
      grind
    · rw [settle_of_free taken, ih, contains_of_file]
      grind

/-- What is registered stays registered as it is, whatever is called after. -/
theorem settle_keeps {name : N} {object : T} {ns : Namespace} (stored : r.objects[name]? = some object)
    (placed : r.namespaces[name]? = some ns) (bids : List (Bid N T)) :
    (r.settle bids).2.objects[name]? = some object ∧ (r.settle bids).2.namespaces[name]? = some ns := by
  induction bids generalizing r with
  | nil => exact ⟨stored, placed⟩
  | cons bid bids ih =>
    by_cases taken : r.contains bid.name
    · rw [settle_of_taken taken]
      exact ih stored placed
    · rw [settle_of_free taken]
      have apart : bid.name ≠ name := by
        rintro rfl
        simp [contains, Std.ExtTreeMap.contains_eq_isSome_getElem?, stored] at taken
      refine ih ?_ ?_
      · simpa [Std.ExtTreeMap.getElem?_insert, apart] using stored
      · simpa [namespaces_file, Std.ExtTreeMap.getElem?_insert, apart] using placed

/-- Settling keeps the four maps in agreement. -/
theorem Exact.settle (exact : r.Exact) (bids : List (Bid N T)) : (r.settle bids).2.Exact := by
  induction bids generalizing r with
  | nil => exact exact
  | cons bid bids ih =>
    by_cases taken : r.contains bid.name
    · rw [settle_of_taken taken]
      exact ih exact
    · have free : r.objects[bid.name]? = none := by simpa [contains] using taken
      rw [settle_of_free taken]
      exact ih (exact.file free bid.object bid.ns)

/-- The first call for a name is accepted and lasts. -/
theorem settle_first (before later : List (Bid N T)) (first : bid.name ∉ before.map (·.name)) :
    let there := (empty.settle before).2
    let last := (empty.settle (before ++ bid :: later)).2
    there.add bid.object bid.name bid.ns = .ok (there.file bid.object bid.name bid.ns) ∧
      last.get? bid.name = some bid.object ∧ last.namespaceOf? bid.name = some bid.ns := by
  intro there last
  have free : ¬ there.contains bid.name := by
    rw [contains_settle]
    rintro (old | called)
    · simp [contains, empty] at old
    · exact first called
  have filed : there.add bid.object bid.name bid.ns = .ok (there.file bid.object bid.name bid.ns) := if_neg free
  have unfolded : last = ((there.file bid.object bid.name bid.ns).settle later).2 := by
    simp only [last, there, settle_append, settle_of_free free]
  refine ⟨filed, ?_⟩
  rw [unfolded]
  exact settle_keeps (by simp) (by simp [namespaces_file]) later

omit [Ord N] [Std.TransOrd N] [Std.LawfulEqOrd N] in
theorem exists_first {name : N} (called : name ∈ bids.map (·.name)) :
    ∃ before bid later, bids = before ++ bid :: later ∧ bid.name = name ∧ bid.name ∉ before.map (·.name) := by
  obtain ⟨names, rest, split, first⟩ := List.eq_append_cons_of_mem called
  obtain ⟨before, tail, rfl, rfl, tailed⟩ := List.map_eq_append_iff.mp split
  obtain ⟨bid, later, rfl, rfl, -⟩ := List.map_eq_cons_iff.mp tailed
  exact ⟨before, bid, later, rfl, rfl, first⟩

omit [Ord N] [Std.TransOrd N] [Std.LawfulEqOrd N] in
theorem pluginId_of_called {threads : List (Contender N T)} {plugin : PluginId}
    (own : ∀ thread ∈ threads, thread.ns.pluginId = plugin)
    (called : bid ∈ (threads.map (·.bids)).flatten) : bid.ns.pluginId = plugin := by
  obtain ⟨_, listed, member⟩ := List.mem_flatten.mp called
  obtain ⟨thread, racing, rfl⟩ := List.mem_map.mp listed
  obtain ⟨call, -, rfl⟩ := List.mem_map.mp member
  exact own thread racing

omit [Ord N] [Std.TransOrd N] [Std.LawfulEqOrd N] in
theorem called_iff {threads : List (Contender N T)} (perm : bids.Perm (threads.map (·.bids)).flatten) (name : N) :
    name ∈ bids.map (·.name) ↔ ∃ thread ∈ threads, name ∈ thread.calls.map (·.1) := by
  rw [(perm.map (·.name)).mem_iff]
  simp only [List.map_flatten, List.map_map, List.mem_flatten, List.mem_map, Function.comp_apply]
  constructor
  · rintro ⟨_, ⟨thread, member, rfl⟩, called⟩
    exact ⟨thread, member, by simpa [Contender.bids] using called⟩
  · rintro ⟨thread, member, called⟩
    exact ⟨_, ⟨thread, member, rfl⟩, by simpa [Contender.bids] using called⟩

theorem contains_settle_empty (bids : List (Bid N T)) (name : N) :
    (empty.settle bids).2.contains name ↔ name ∈ bids.map (·.name) := by
  rw [contains_settle]
  simp [contains, empty]

/-- Calls for one plugin leave everything that they name in its namespace. -/
theorem mem_names_settle {plugin : PluginId} (own : ∀ bid ∈ bids, bid.ns.pluginId = plugin) (name : N) :
    name ∈ (empty.settle bids).2.names (.plugin plugin) ↔ name ∈ bids.map (·.name) := by
  have exact : (empty.settle bids).2.Exact := exact_empty.settle bids
  rw [← contains_settle_empty]
  refine ⟨exact.contains_of_mem_names, fun there => ?_⟩
  obtain ⟨before, bid, later, rfl, rfl, first⟩ := exists_first ((contains_settle_empty ..).mp there)
  have placed := (settle_first before later first).2.2
  rw [exact.mem_names_of_getElem? placed, Namespace.covers_of_plugin (by simp), Namespace.pluginId_plugin]
  exact own bid (by simp)

/-- However threads take turns, each name is won once, by the first call for it, and it stays with the object
and the namespace of that call. Threads of one plugin leave what one clearing takes away. -/
theorem names_won_once (threads : List (Contender N T)) {schedule : List (Bid N T)}
    (interleaves : Interleaves (threads.map (·.bids)) schedule) :
    let r := (empty.settle schedule).2
    let names := {name | ∃ thread ∈ threads, name ∈ thread.calls.map (·.1)}
    ((empty.accepted schedule).map (·.name)).Nodup ∧
      (∀ name, name ∈ (empty.accepted schedule).map (·.name) ↔ name ∈ names) ∧
      (empty.accepted schedule).length = (empty.settle schedule).1 ∧
      (empty.settle schedule).1 = names.ncard ∧ r.size = names.ncard ∧
      (∀ before bid later, schedule = before ++ bid :: later → (∀ earlier ∈ before, earlier.name ≠ bid.name) →
        let there := (empty.settle before).2
        there.add bid.object bid.name bid.ns = .ok (there.file bid.object bid.name bid.ns) ∧
          r.get? bid.name = some bid.object ∧ r.namespaceOf? bid.name = some bid.ns) ∧
      ∀ plugin, (∀ thread ∈ threads, thread.ns.pluginId = plugin) →
        (r.names (.plugin plugin)).Nodup ∧ (∀ name, name ∈ r.names (.plugin plugin) ↔ name ∈ names) ∧
          (r.clearNamespace (.plugin plugin)).2 = empty := by
  intro r names
  have perm := interleaves.perm
  have registered : ∀ name, r.contains name ↔ name ∈ names := fun name =>
    (contains_settle_empty ..).trans (called_iff perm name)
  have size : r.size = names.ncard := by
    rw [Registry.size, Index.size_eq_ncard]
    congr 1
    ext name
    rw [Set.mem_ofPred_eq, Std.ExtTreeMap.mem_iff_contains]
    exact registered name
  have count : r.size = (empty.settle schedule).1 := by
    rw [size_settle]
    exact Nat.zero_add _
  obtain ⟨nodup, won⟩ := names_accepted empty schedule
  refine ⟨nodup, fun name => ?_, length_accepted .., count ▸ size, size, ?_, ?_⟩
  · rw [won, ← registered, contains_settle_empty]
    simp [contains, empty]
  · rintro before bid later rfl first
    exact settle_first before later (by simpa using first)
  · intro plugin own
    have exact : r.Exact := exact_empty.settle schedule
    have covered : ∀ name, name ∈ r.names (.plugin plugin) ↔ name ∈ schedule.map (·.name) :=
      mem_names_settle fun bid called => pluginId_of_called own (perm.mem_iff.mp called)
    refine ⟨exact.nodup_names _, fun name => (covered name).trans (called_iff perm name), ?_⟩
    refine (exact.clearNamespace _).eq_empty fun name left => ?_
    rw [contains_clearNamespace, covered, contains_settle_empty] at left
    exact left.1 left.2

/-- The second thread overtakes the first, so the name both bid for goes to the object of the second. -/
theorem names_won_once_overtaken :
    let threads : List (Contender String Nat) :=
      [⟨.of 7 1, [("fog", 1), ("sky", 2)]⟩, ⟨.of 7 2, [("sky", 3), ("fog", 4)]⟩]
    let schedule : List (Bid String Nat) :=
      [⟨"fog", .of 7 1, 1⟩, ⟨"sky", .of 7 2, 3⟩, ⟨"sky", .of 7 1, 2⟩, ⟨"fog", .of 7 2, 4⟩]
    let r := (empty.settle schedule).2
    Interleaves (threads.map (·.bids)) schedule ∧ (empty.settle schedule).1 = r.size ∧
      r.get? "sky" = some 3 ∧ r.namespaceOf? "sky" = some (.of 7 2) ∧ "fog" ∈ r.names (.plugin 7) ∧
      (r.clearNamespace (.plugin 7)).2 = empty := by
  intro threads schedule r
  have interleaves : Interleaves (threads.map (·.bids)) schedule :=
    @Interleaves.next _ [] [_] _ _ _ <| @Interleaves.next _ [_] [] _ _ _ <|
      @Interleaves.next _ [] [_] _ _ _ <| @Interleaves.next _ [_] [] _ _ _ <| .done (by simp)
  obtain ⟨-, -, -, won, size, first, cleared⟩ := names_won_once threads interleaves
  obtain ⟨-, object, place⟩ := first [⟨"fog", .of 7 1, 1⟩] ⟨"sky", .of 7 2, 3⟩ _ rfl (by simp)
  obtain ⟨-, listed, gone⟩ := cleared 7 (by simp [threads])
  exact ⟨interleaves, won.trans size.symm, object, place, (listed "fog").mpr ⟨_, .head _, .head _⟩, gone⟩

end Registry

end PluginHost
