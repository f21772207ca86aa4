import PluginHost.Proofs.Controller.Offer
import PluginHost.Proofs.Runtime.Parts

namespace PluginHost

open PluginHost.Action

variable {M : Type} {P : Holder → Prop}

/-- No hook of such a manager takes a property away from the holder. -/
def Manager.Respects (M : Type) [Manager M] (P : Holder → Prop) : Prop :=
  ∀ hook (m : M) holder, P holder → P (Manager.hook hook m holder).holder

/-- No entry point of a library takes a property away from the holder. -/
def Site.Respects (site : Site M) (P : Holder → Prop) : Prop :=
  ∀ path image symbol entry, site.image path = .ok image → image.entry? symbol = some entry →
    ∀ holder, P holder → P (entry holder).holder

/-- A polite library hands the holder back as the property wants it. -/
theorem Site.Respects.loadExport {site : Site M} (polite : site.Respects P) {library : Library M}
    (opens : site.image library.path = .ok library.image) {holder : Holder} (start : P holder) :
    P (library.loadExport holder).holder := by
  cases found : library.lookup? library.entrySymbol with
  | none =>
    unfold Library.loadExport
    rw [found]
    exact start
  | some entry =>
    obtain ⟨symbol, -, exported⟩ := Option.bind_eq_some_iff.mp found
    have kept : P (entry holder).holder := polite _ _ symbol entry opens exported holder start
    unfold Library.loadExport
    rw [found]
    dsimp only
    split <;> exact kept

variable [Manager M]

namespace Controller

theorem keeps_attach (respects : Manager.Respects M P) (m : Instance M) :
    (attach m).Keeps fun _ c => P c.holder := by
  refine leads_always fun _ c start => ?_
  have kept := respects .attach m.manager c.holder start
  unfold attach
  dsimp only
  split <;> exact kept

/-- A hook that respects the property is the only way a call touches the holder. -/
theorem keeps_call (respects : Manager.Respects M P) (key : TypeKey) (phase : Phase) :
    (call key phase : Action (Controller M) Unit).Keeps fun _ c => P c.holder := by
  refine leads_always fun _ c start => ?_
  unfold call
  split
  · exact start
  · rename_i m _
    have kept := respects (.phase phase) m.manager c.holder start
    dsimp only
    split <;> exact kept

theorem keeps_dispatch (respects : Manager.Respects M P) (phase : Phase) :
    (dispatch phase : Action (Controller M) Unit).Keeps fun _ c => P c.holder := by
  refine leads_get_bind fun _ c _ => ?_
  unfold play
  exact leads_forEach (fun (key, phase) => keeps_call respects key phase) _

theorem keeps_addExt (respects : Manager.Respects M P) (key : TypeKey) (manager : M) (ns : Namespace)
    (library : Option LibraryId) : (addExt key manager ns library).Keeps fun _ c => P c.holder :=
  leads_addExt (leads_always fun _ _ start => start) (keeps_attach respects)
    (fun _ => leads_modify fun _ _ start => start) ns

end Controller

namespace Platform

theorem keeps_register (respects : Manager.Respects M P) (library : Library M) (e : Export M) :
    (register library e).Keeps fun _ p => P p.controller.holder := by
  refine leads_always fun past p start => ?_
  have kept := (Controller.keeps_addExt respects e.typeKey e.manager (.plugin p.catalogue.nextId)
    (some library.id)).either past start
  rw [register_eq]
  split <;> exact kept

/-- Loading touches the holder in the export and in the attaching of the manager. -/
theorem keeps_load (respects : Manager.Respects M P) {site : Site M} (polite : site.Respects P) (path : Path) :
    (load site path).Keeps fun _ p => P p.controller.holder := by
  refine leads_load_of_named fun name => leads_always fun past p start => ?_
  cases opens : site.image path with
  | error reason =>
    rw [loadNamed_of_error opens]
    exact start
  | ok image =>
    let library : Library M := ⟨⟨p.catalogue.opened⟩, name, path, image⟩
    have kept : P (library.loadExport p.controller.holder).holder := polite.loadExport opens start
    rw [loadNamed_of_image opens]
    dsimp only
    split
    · exact kept
    · exact (keeps_register respects _ _).either past kept

theorem keeps_discover (respects : Manager.Respects M P) {site : Site M} (polite : site.Respects P) :
    (discover site).Keeps fun _ p => P p.controller.holder :=
  leads_discover (keeps_load respects polite)

end Platform

namespace Runtime

theorem keeps_opening {r : Runtime M} (respects : Manager.Respects M P) {site : Site M}
    (polite : site.Respects P) (start : P r.holder) :
    P (reached Call.act r [.preInit site, .init site]).holder := by
  have discovers : (Platform.discover site).void.Keeps fun _ p => P p.controller.holder :=
    keeps_void.mpr (Platform.keeps_discover respects polite)
  have drives (phase : Phase) :
      (Platform.onController (Controller.dispatch phase) : Action (Platform M) Unit).Keeps
        fun _ p => P p.controller.holder :=
    fun past p start => Controller.keeps_dispatch respects phase past p.controller start
  have first : ∀ part ∈ (Call.preInit site).parts, part.act.Keeps fun _ p => P p.controller.holder := by
    intro part played
    obtain rfl := List.mem_singleton.mp played
    exact discovers
  have second : ∀ part ∈ (Call.init site).parts, part.act.Keeps fun _ p => P p.controller.holder := by
    intro part played
    simp only [Call.parts, List.mem_cons, List.not_mem_nil, or_false] at played
    rcases played with rfl | rfl | rfl
    · exact discovers
    · exact drives .init
    · exact drives .postInit
  exact keeps_iff.mp (keeps_of_parts second) [] _ (keeps_iff.mp (keeps_of_parts first) [] r start)

end Runtime

end PluginHost
