import Mathlib.Algebra.Group.Nat.Defs
import PluginHost.Namespace

namespace PluginHost

/-- As long as the counter does not come round. -/
theorem toNat_succ {id : PluginId} (room : id.toNat + 1 < 2 ^ 32) : (id + 1).toNat = id.toNat + 1 := by
  rw [UInt32.toNat_add]
  exact Nat.mod_eq_of_lt room

namespace Namespace

/-- The plugin is the upper half of the packed word and the addin the lower one. -/
theorem toNat_bits_of (p a : UInt32) : (of p a).bits.toNat = p.toNat * 2 ^ 32 + a.toNat := by
  have bound := p.toNat_lt
  have low := a.toNat_lt
  have shift : (32 : UInt64).toNat % 64 = 32 := rfl
  simp only [of, UInt64.toNat_or, UInt64.toNat_shiftLeft, UInt32.toNat_toUInt64, shift]
  rw [Nat.mod_eq_of_lt (by rw [Nat.shiftLeft_eq]; omega), ← Nat.shiftLeft_add_eq_or_of_lt low,
    Nat.shiftLeft_eq]

theorem toNat_pluginId (ns : Namespace) : ns.pluginId.toNat = ns.bits.toNat / 2 ^ 32 := by
  have bound := ns.bits.toNat_lt
  have shift : (32 : UInt64).toNat % 64 = 32 := rfl
  simp only [pluginId, UInt64.toNat_toUInt32, UInt64.toNat_shiftRight, shift, Nat.shiftRight_eq_div_pow]
  omega

theorem toNat_addinId (ns : Namespace) : ns.addinId.toNat = ns.bits.toNat % 2 ^ 32 := by
  simp only [addinId, UInt64.toNat_toUInt32]

@[simp]
theorem pluginId_of (p a : UInt32) : (of p a).pluginId = p := by
  apply UInt32.toNat_inj.mp
  have low := a.toNat_lt
  rw [toNat_pluginId, toNat_bits_of]
  omega

@[simp]
theorem addinId_of (p a : UInt32) : (of p a).addinId = a := by
  apply UInt32.toNat_inj.mp
  have low := a.toNat_lt
  rw [toNat_addinId, toNat_bits_of]
  omega

/-- Every word is the packing of its two halves. -/
theorem of_ids (ns : Namespace) : of ns.pluginId ns.addinId = ns := by
  have same : (of ns.pluginId ns.addinId).bits = ns.bits := by
    apply UInt64.toNat_inj.mp
    rw [toNat_bits_of, toNat_pluginId, toNat_addinId]
    omega
  cases ns
  exact congrArg mk same

@[simp]
theorem isAddin_plugin (p : PluginId) : (plugin p).isAddin = false := by
  simp [isAddin, plugin]

@[simp]
theorem pluginId_plugin (p : PluginId) : (plugin p).pluginId = p := pluginId_of p 0

theorem plugin_pluginId {ns : Namespace} (whole : ns.isAddin = false) : plugin ns.pluginId = ns := by
  have none : ns.addinId = 0 := by simpa [isAddin] using whole
  rw [plugin, ← none, of_ids]

theorem eq_plugin_iff {ns : Namespace} {p : PluginId} : ns = plugin p ↔ ¬ ns.isAddin ∧ ns.pluginId = p := by
  constructor
  · rintro rfl
    simp
  · rintro ⟨whole, rfl⟩
    exact (plugin_pluginId (by simpa using whole)).symm

/-- What is taken down together with a scope: an addin alone, a plugin with all of its addins. -/
def covers (scope ns : Namespace) : Bool :=
  if scope.isAddin then ns = scope else ns.pluginId = scope.pluginId

@[simp]
theorem covers_self (ns : Namespace) : ns.covers ns := by
  simp [covers]

theorem covers_of_isAddin {scope : Namespace} (addin : scope.isAddin) (ns : Namespace) :
    scope.covers ns ↔ ns = scope := by
  simp [covers, addin]

theorem covers_of_plugin {scope : Namespace} (whole : ¬ scope.isAddin) (ns : Namespace) :
    scope.covers ns ↔ ns.pluginId = scope.pluginId := by
  simp [covers, whole]

end Namespace

end PluginHost
