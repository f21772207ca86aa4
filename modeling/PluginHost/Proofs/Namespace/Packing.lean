import Mathlib.Data.List.Basic
import PluginHost.Proofs.Namespace
import Std.Data.String.ToNat

namespace PluginHost.Namespace

theorem toNat_bits (ns : Namespace) : ns.bits.toNat = ns.pluginId.toNat * 2 ^ 32 + ns.addinId.toNat := by
  rw [← toNat_bits_of, of_ids]

/-- Two pairs of ids are packed into one word only if they are the same pair. -/
theorem of_inj {p q : PluginId} {a b : AddinId} : of p a = of q b ↔ p = q ∧ a = b := by
  constructor
  · intro same
    have plugins := congrArg pluginId same
    have addins := congrArg addinId same
    exact ⟨by simpa using plugins, by simpa using addins⟩
  · rintro ⟨rfl, rfl⟩
    rfl

/-- The upper halves decide, and where they are equal the lower ones. -/
theorem compare_packed {p q a b : Nat} (low : a < 2 ^ 32) (low' : b < 2 ^ 32) :
    compare (p * 2 ^ 32 + a) (q * 2 ^ 32 + b) = (compare p q).then (compare a b) := by
  rcases Nat.lt_trichotomy p q with less | rfl | more
  · rw [Nat.compare_eq_lt.mpr less, Nat.compare_eq_lt.mpr (by omega)]
    rfl
  · rw [Nat.compare_eq_eq.mpr rfl]
    simp [Nat.compare_eq_ite_lt]
  · rw [Nat.compare_eq_gt.mpr more, Nat.compare_eq_gt.mpr (by omega)]
    rfl

/-- Namespaces are compared by their plugins, and by their addins where the plugins are the same. -/
theorem compare_eq_then (x y : Namespace) :
    compare x y = (compare x.pluginId y.pluginId).then (compare x.addinId y.addinId) := by
  change compare x.bits y.bits = _
  rw [UInt64.compare_eq_toNat_compare_toNat, UInt32.compare_eq_toNat_compare_toNat,
    UInt32.compare_eq_toNat_compare_toNat, toNat_bits, toNat_bits,
    compare_packed x.addinId.toNat_lt y.addinId.toNat_lt]

/-- A plugin's addins do not come before the plugin itself. -/
theorem isLE_compare_plugin (ns : Namespace) : (compare (plugin ns.pluginId) ns).isLE := by
  have least : (compare (0 : AddinId) ns.addinId).isLE := by
    rw [UInt32.compare_eq_toNat_compare_toNat, Nat.isLE_compare]
    exact Nat.zero_le _
  rw [compare_eq_then, pluginId_plugin, plugin, addinId_of, Ordering.isLE_then_iff_or]
  exact .inr ⟨Std.ReflOrd.compare_self, least⟩

theorem pluginNamespace_eq_iff {x y : Namespace} : x.pluginNamespace = y.pluginNamespace ↔ x.pluginId = y.pluginId := by
  rw [pluginNamespace, pluginNamespace, plugin, plugin, of_inj, and_iff_left rfl]

theorem colon_notMem_toString (n : Nat) : ':' ∉ (toString n).toList := by
  rw [Nat.toString_eq_repr, Nat.toList_repr]
  intro member
  have digit := Nat.isDigit_of_mem_toDigits (by decide) (by decide) member
  exact absurd digit (by decide)

theorem toString_toNat_inj {m n : UInt32} : toString m.toNat = toString n.toNat ↔ m = n := by
  rw [Nat.toString_eq_repr, Nat.toString_eq_repr, Nat.repr_inj, UInt32.toNat_inj]

theorem eq_iff_ids {x y : Namespace} : x = y ↔ x.pluginId = y.pluginId ∧ x.addinId = y.addinId := by
  rw [← of_inj, of_ids, of_ids]

theorem toList_display (ns : Namespace) :
    ns.display.toList = (toString ns.pluginId.toNat).toList ++ ':' :: (toString ns.addinId.toNat).toList := by
  simp [display]

/-- No number has a colon in it, so the colon tells where the plugin ends. -/
theorem display_inj {x y : Namespace} : x.display = y.display ↔ x = y := by
  rw [← String.toList_inj, toList_display, toList_display,
    List.append_cons_inj_of_notMem (colon_notMem_toString _) (colon_notMem_toString _), String.toList_inj,
    String.toList_inj, toString_toNat_inj, toString_toNat_inj, eq_iff_ids, and_iff_right rfl]

theorem colon_mem_display (ns : Namespace) : ':' ∈ ns.display.toList := by
  rw [toList_display]
  exact List.mem_append_right _ List.mem_cons_self

theorem display_ne_toString (ns : Namespace) (n : Nat) : ns.display ≠ toString n := by
  intro same
  exact colon_notMem_toString n (same ▸ colon_mem_display ns)

/-- What the diagnostic text shows between its parentheses. -/
def shown (ns : Namespace) : String := if ns.isAddin then ns.display else toString ns.pluginId.toNat

/-- The diagnostic text wraps one of two texts: that of a plugin has no colon, that of an addin has one. -/
theorem debug_eq (ns : Namespace) : ns.debug = "Namespace(" ++ ns.shown ++ ")" := by
  rw [debug, shown]
  split <;> rfl

/-- Plugins and addins are never shown alike, and two of one sort only if they are the same. -/
theorem shown_inj {x y : Namespace} : x.shown = y.shown ↔ x = y := by
  refine ⟨fun same => ?_, fun same => same ▸ rfl⟩
  rw [shown, shown] at same
  -- of an addin and a plugin only the addin is shown with a colon
  split at same <;> split at same
  · exact display_inj.mp same
  · exact absurd same (display_ne_toString x _)
  · exact absurd same.symm (display_ne_toString y _)
  · rename_i whole whole'
    calc x = plugin x.pluginId := (plugin_pluginId (eq_false_of_ne_true whole)).symm
      _ = plugin y.pluginId := by rw [toString_toNat_inj.mp same]
      _ = y := plugin_pluginId (eq_false_of_ne_true whole')

theorem debug_inj {x y : Namespace} : x.debug = y.debug ↔ x = y := by
  rw [debug_eq, debug_eq, String.append_left_inj, String.append_right_inj, shown_inj]

/-- Namespaces are the pairs of a plugin and an addin, in lexicographic order: the packed word is compared, and the
plugin is its upper half. Both texts of a namespace tell which one it is. -/
theorem packing_is_order_isomorphism :
    (∀ p a, (of p a).pluginId = p ∧ (of p a).addinId = a) ∧
      (∀ word : UInt64, ∃! ids : PluginId × AddinId, (of ids.1 ids.2).bits = word) ∧
      Function.LeftInverse mk bits ∧ Function.RightInverse mk bits ∧
      (∀ x y : Namespace,
        compare x y = (compare x.pluginId y.pluginId).then (compare x.addinId y.addinId)) ∧
      (∀ x : Namespace, x.pluginNamespace.pluginId = x.pluginId ∧
        ∀ y : Namespace, y.pluginId = x.pluginId → (compare x.pluginNamespace y).isLE) ∧
      (∀ x y : Namespace, x.pluginNamespace = y.pluginNamespace ↔ x.pluginId = y.pluginId) ∧
      (∀ x y : Namespace, x.display = y.display ↔ x = y) ∧ ∀ x y : Namespace, x.debug = y.debug ↔ x = y := by
  refine ⟨fun p a => ⟨pluginId_of p a, addinId_of p a⟩, fun word => ?_, fun _ => rfl, fun _ => rfl, compare_eq_then,
    fun x => ⟨pluginId_plugin x.pluginId, ?_⟩, fun _ _ => pluginNamespace_eq_iff, fun _ _ => display_inj,
    fun _ _ => debug_inj⟩
  · let ns : Namespace := ⟨word⟩
    refine ⟨(ns.pluginId, ns.addinId), congrArg bits (of_ids ns), ?_⟩
    rintro ⟨p, a⟩ packed
    have same : of p a = ns := congrArg mk packed
    simp [← same]
  · intro y same
    rw [pluginNamespace, ← same]
    exact isLE_compare_plugin y

/-- The namespace of a plugin comes before that of any of its addins. -/
theorem packing_is_order_isomorphism_addin :
    (of 3 5).pluginId = (of 3 7).pluginId ∧ (compare (of 3 7).pluginNamespace (of 3 5)).isLE := by
  have same : (of 3 5).pluginId = (of 3 7).pluginId := by rw [pluginId_of, pluginId_of]
  obtain ⟨-, -, -, -, -, least, -⟩ := packing_is_order_isomorphism
  exact ⟨same, (least (of 3 7)).2 (of 3 5) same⟩

end PluginHost.Namespace
