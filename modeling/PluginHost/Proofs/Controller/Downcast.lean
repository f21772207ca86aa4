import PluginHost.Proofs.Controller.Staff

namespace PluginHost

variable {M : Type} [Manager M]

/-- No hook changes the type that a manager has. -/
def Manager.Rigid (M : Type) [Manager M] : Prop :=
  ∀ hook (m : M) holder, Manager.concrete (Manager.hook hook m holder).manager = Manager.concrete m

/-- A scripted manager is of one type for life. -/
theorem Scripted.rigid : Manager.Rigid Scripted := by
  intro hook s holder
  change (s.answer hook holder).manager.concrete = s.concrete
  unfold Scripted.answer Scripted.after
  split
  · rfl
  · split <;> rfl

/-- What passes for a type is of the type, whichever type that is, exactly if the manager says what it is. -/
theorem Manager.sound_iff_candid (m : M) :
    (∀ key, Manager.passesFor m key → Manager.isOf m key) ↔ Manager.claimed m = Manager.concrete m := by
  simp only [Manager.passesFor, Manager.isOf, decide_eq_true_eq]
  constructor
  · exact fun sound => (sound _ rfl).symm
  · exact fun candid key passes => candid.symm.trans passes

namespace Controller

variable {R : TypeKey → M → Prop}

namespace Deal

/-- A manager that is offered or changed stands so to its type. -/
def Fits (R : TypeKey → M → Prop) : Deal M → Prop
  | call asked => asked.Fits R
  | change key f => ∀ m, R key m → R key (f m)
  | callOne _ _ | configure _ => True

/-- A manager that is changed is of the same type afterwards. -/
def KeepsType : Deal M → Prop
  | change _ f => ∀ m, Manager.concrete (f m) = Manager.concrete m
  | call _ | callOne _ _ | configure _ => True

/-- Whatever a controller is asked to do leaves every manager fit for its type, if those that are offered or changed
are. -/
theorem keepsEach_act (stable : Manager.Stable R) {deal : Deal M} (fits : deal.Fits R) : KeepsEach R deal.act := by
  cases deal with
  | call asked => exact Controller.keepsEach_act stable fits
  | callOne key phase => exact Action.Leads.void (keepsEach_dispatchOne stable key phase)
  | change key f =>
    rw [keepsEach_iff]
    intro c each
    change (c.change key f).Each R
    unfold Controller.change
    split
    · exact each.modify fun m => fits m.manager
    · exact each
  | configure f =>
    rw [keepsEach_iff]
    exact fun c each => each

end Deal

/-- The run lemma: everyone is fit for its type after any calls, by induction on them. -/
theorem Each.run {c : Controller M} (each : c.Each R) (stable : Manager.Stable R) {deals : List (Deal M)}
    (fits : ∀ deal ∈ deals, deal.Fits R) : (Action.reached Deal.act c deals).Each R := by
  induction deals generalizing c with
  | nil => exact each
  | cons deal deals ih =>
    have next := keepsEach_iff.mp (Deal.keepsEach_act stable (fits deal (.head _))) c each
    exact ih next fun later member => fits later (.tail _ member)

/-- A manager is taken for nothing but what it is exactly if it says what it is. Whoever is found or changed as
one of a type, after any calls and any panics, says that it is one; it is one, or it was offered for
registration under that type without being one. -/
theorem downcasts_sound_iff_candid (rigid : Manager.Rigid M) (holder : Holder) {deals : List (Deal M)}
    (kept : ∀ deal ∈ deals, deal.KeepsType) :
    let c := Action.reached Deal.act { holder } deals
    (∀ m : M, (∀ key, (Manager.downcast? m key).isSome → Manager.isOf m key) ↔
      Manager.claimed m = Manager.concrete m) ∧
    (∀ key m, c.get? key = some m → Manager.passesFor m key ∧
      (Manager.isOf m key ∨ ∃ manager ns library,
        .call (.addExt key manager ns library) ∈ deals ∧ Manager.concrete manager = Manager.concrete m)) ∧
    ∀ key f, c.get? key = none → c.change key f = c := by
  intro c
  let R (key : TypeKey) (m : M) : Prop :=
    Manager.concrete m = key ∨ ∃ manager ns library,
      Deal.call (.addExt key manager ns library) ∈ deals ∧ Manager.concrete manager = Manager.concrete m
  have turned {key : TypeKey} {m m' : M} (same : Manager.concrete m' = Manager.concrete m) : R key m → R key m' := by
    simp only [R, same]
    exact id
  have stable : Manager.Stable R := fun key hook m holder => turned (rigid hook m holder)
  have fits : ∀ deal ∈ deals, deal.Fits R := by
    intro deal among
    cases deal with
    | call asked =>
      cases asked with
      | add manager ns => exact .inl rfl
      | addExt key manager ns library => exact .inr ⟨manager, ns, library, among, rfl⟩
      | _ => trivial
    | change key f => exact fun m => turned (kept _ among m)
    | _ => trivial
  have each : c.Each R := Each.run (fun key m found => by simp [Registry.empty] at found) stable fits
  refine ⟨fun m => ?_, fun key m found => ?_, fun key f missing => ?_⟩
  · rw [← Manager.sound_iff_candid]
    simp [Manager.downcast?]
  · obtain ⟨held, stored, taken⟩ := Option.bind_eq_some_iff.mp found
    unfold Manager.downcast? at taken
    split at taken <;> cases taken
    rename_i passes
    obtain same | offered := each key held stored
    · exact ⟨passes, .inl (decide_eq_true same)⟩
    · exact ⟨passes, .inr offered⟩
  · simp [Controller.change, missing]

/-- The mate is found and changed under its own type, as what it is. -/
theorem downcasts_sound_iff_candid_mate :
    let cook : Scripted := { key := ⟨"crew::Cook"⟩, label := "cook" }
    let mate : Scripted := { key := ⟨"crew::Mate"⟩, label := "mate" }
    let deals : List (Deal Scripted) :=
      [.call (.add mate (.plugin 1)), .call (.addExt cook.key cook .core none), .callOne cook.key .init,
        .change mate.key fun m => { m with tag := 7 }, .call (.dispatch .update), .call (.releaseNamespace .core)]
    let c := Action.reached Deal.act { holder := ⟨.empty, ⟨[]⟩, ⟨[]⟩, .off⟩ } deals
    c.get? mate.key = some { mate with tag := 7, ticks := 1, attached := true } ∧
      Manager.isOf ({ mate with tag := 7, ticks := 1, attached := true } : Scripted) mate.key := by
  intro cook mate deals c
  have kept : ∀ deal ∈ deals, deal.KeepsType := by
    simp [deals, Deal.KeepsType, Manager.concrete]
  have found : c.get? mate.key = some { mate with tag := 7, ticks := 1, attached := true } := by decide +kernel
  obtain ⟨-, soundly, -⟩ := downcasts_sound_iff_candid Scripted.rigid ⟨.empty, ⟨[]⟩, ⟨[]⟩, .off⟩ kept
  obtain ⟨-, is | ⟨manager, ns, library, offered, -⟩⟩ := soundly _ _ found
  · exact ⟨found, is⟩
  · simp [deals, cook, mate] at offered

/-- Under its own word and nothing else, a manager is found and changed as one of a type that it is not. -/
theorem impostor_passes :
    let thief : Scripted := { key := ⟨"crew::Cook"⟩, concrete := ⟨"crew::Thief"⟩, label := "thief" }
    let cook : TypeKey := ⟨"crew::Cook"⟩
    let c := (addExt (Manager.claimed thief) thief .core none { holder := ⟨.empty, ⟨[]⟩, ⟨[]⟩, .off⟩ }).state
    Manager.isOf thief cook = false ∧ Manager.passesFor thief cook ∧ Manager.downcast? thief cook = some thief ∧
      c.get? cook = some { thief with attached := true } ∧
      (c.change cook fun m => { m with tag := 7 }).get? cook = some { thief with tag := 7, attached := true } := by
  decide +kernel

end Controller

end PluginHost
