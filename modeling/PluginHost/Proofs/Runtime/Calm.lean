import PluginHost.Manager.Heartbeat
import PluginHost.Proofs.Controller.Offer
import PluginHost.Proofs.Platform.Loading
import PluginHost.Proofs.Runtime.Call

namespace PluginHost

namespace Action

variable {σ τ α β : Type} {x : Action σ α} {f : α → Action σ β}

/-- The operation gives an answer from every state. -/
abbrev Returns (x : Action σ α) : Prop := x.Leads (fun _ _ => True) (fun _ _ => True) fun _ _ => False

/-- To return is to answer in every state, which is the reading the runs are described by. -/
theorem returns_iff : x.Returns ↔ ∀ s, ∃ a, (x s).result = .ok a := by
  constructor
  · intro returns s
    have next := returns [] s trivial
    cases result : (x s).result with
    | ok a => exact ⟨a, rfl⟩
    | error panic =>
      rw [result] at next
      exact next.elim
  · intro returns past s _
    obtain ⟨a, ok⟩ := returns s
    rw [ok]
    trivial

theorem returns_modify (g : σ → σ) : (Action.modify g).Returns := fun _ _ _ => trivial

theorem returns_emit (events : List Event) : (Action.emit events : Action σ Unit).Returns :=
  fun _ _ _ => trivial

theorem Returns.zoom (returns : x.Returns) (part : τ → σ) (put : σ → τ → τ) :
    (Action.zoom part put x).Returns :=
  fun past t _ => returns past (part t) trivial

theorem Returns.onPanic (returns : x.Returns) (y : Action σ Unit) : (x.onPanic y).Returns := by
  rw [returns_iff] at returns ⊢
  intro s
  obtain ⟨a, ok⟩ := returns s
  exact ⟨a, by rw [onPanic_of_ok ok, ok]⟩

theorem Returns.andFinally (returns : x.Returns) (y : Action σ Unit) : (x.andFinally y).Returns :=
  fun past s _ => returns past s trivial

end Action

open PluginHost.Action

variable {M : Type}

theorem Runtime.returns_onController {α : Type} {x : Action (Controller M) α} (returns : x.Returns) :
    (Runtime.onController x : Action (Runtime M) α).Returns :=
  (returns.zoom _ _).zoom _ _

variable [Manager M]

/-- No hook of such a manager panics. -/
def Manager.Gentle (M : Type) [Manager M] : Prop :=
  ∀ hook (m : M) holder, (Manager.hook hook m holder).panic? = none

theorem gentle_heartbeat : Manager.Gentle Heartbeat := fun _ _ _ => rfl

namespace Controller

theorem returns_attach (gentle : Manager.Gentle M) (m : Instance M) : (attach m).Returns := by
  rw [returns_iff]
  intro c
  have calm := gentle .attach m.manager c.holder
  unfold attach
  dsimp only
  split
  · exact ⟨_, rfl⟩
  · simp_all

/-- Calling a phase on a gentle manager returns, and so it does when there is no manager under the key. -/
theorem returns_call (gentle : Manager.Gentle M) (key : TypeKey) (phase : Phase) :
    (call key phase : Action (Controller M) Unit).Returns := by
  rw [returns_iff]
  intro c
  refine ⟨(), ?_⟩
  unfold call
  split
  · rfl
  · rename_i m _
    simp only [gentle (.phase phase) m.manager c.holder]

theorem returns_play (gentle : Manager.Gentle M) (calls : List (TypeKey × Phase)) :
    (play calls : Action (Controller M) Unit).Returns := by
  unfold play
  exact leads_forEach (fun (key, phase) => returns_call gentle key phase) calls

theorem returns_dispatch (gentle : Manager.Gentle M) (phase : Phase) :
    (dispatch phase : Action (Controller M) Unit).Returns :=
  leads_get_bind fun _ _ _ => returns_play gentle _

theorem returns_destroyAll (ms : List (Instance M)) : (destroyAll ms).Returns := by
  unfold destroyAll
  exact leads_forEach (fun m => returns_emit m.destruction) ms

theorem returns_addExt (gentle : Manager.Gentle M) (key : TypeKey) (manager : M) (ns : Namespace)
    (library : Option LibraryId) : (addExt key manager ns library).Returns :=
  leads_addExt (returns_iff.mpr fun _ => ⟨_, rfl⟩) (returns_attach gentle) (fun _ => returns_modify _) ns

theorem returns_clearNamespace (scope : Namespace) :
    (clearNamespace scope : Action (Controller M) Unit).Returns :=
  leads_get_bind fun _ _ _ => (returns_modify _).bind fun _ =>
    (returns_emit _).bind fun _ => returns_destroyAll _

theorem returns_releaseNamespace (gentle : Manager.Gentle M) (scope : Namespace) :
    (releaseNamespace scope : Action (Controller M) Unit).Returns := by
  refine leads_get_bind fun _ c _ => (returns_play gentle _).bind fun _ => (returns_modify _).bind fun _ => ?_
  refine (returns_clearNamespace scope).bind fun _ => ?_
  split
  · exact returns_emit _
  · exact leads_pure ()

theorem returns_clear : (clear : Action (Controller M) Unit).Returns := by
  have discards (key : TypeKey) : (discard key : Action (Controller M) Unit).Returns :=
    leads_get_bind fun _ _ _ => (returns_modify _).bind fun _ => returns_destroyAll _
  refine leads_get_bind fun _ c _ => (returns_modify _).bind fun _ =>
    (leads_forEach discards _).bind fun _ => ?_
  exact leads_get_bind fun _ _ _ => (returns_modify _).bind fun _ => returns_destroyAll _

/-- The whole teardown returns, destructions included: destroying a manager never panics. -/
theorem returns_releaseAll (gentle : Manager.Gentle M) : (releaseAll : Action (Controller M) Unit).Returns :=
  (returns_dispatch gentle _).bind fun _ => (returns_dispatch gentle _).bind fun _ => returns_clear

end Controller

namespace Platform

theorem returns_addStatic (gentle : Manager.Gentle M) (manager : M) : (addStatic manager).Returns := by
  refine leads_get_bind fun _ p _ => ?_
  split
  · exact leads_pure _
  · refine ((Controller.returns_addExt gentle _ manager .core none).zoom _ _).bind fun offered => ?_
    cases offered with
    | some rejected => exact ((returns_emit _).zoom _ _).bind fun _ => leads_pure _
    | none => exact (returns_emit _).bind fun _ => (returns_modify _).bind fun _ => leads_pure _

theorem returns_register (gentle : Manager.Gentle M) (library : Library M) (e : Export M) :
    (register library e).Returns := by
  refine leads_get_bind fun _ p _ => ?_
  refine (((Controller.returns_addExt gentle _ _ _ _).zoom _ _).onPanic _).bind fun offered => ?_
  cases offered with
  | some rejected =>
    exact ((returns_emit _).zoom _ _).bind fun _ => (returns_emit _).bind fun _ => leads_pure _
  | none =>
    exact (returns_modify _).bind fun _ => (returns_emit _).bind fun _ =>
      (returns_modify _).bind fun _ => leads_pure _

/-- Loading returns whichever way it is decided, refused files and failed constructors included. -/
theorem returns_load (gentle : Manager.Gentle M) (site : Site M) (path : Path) :
    (load site path).Returns := by
  have opens (path : Path) (name : String) : (openLibrary site path name).Returns := by
    refine leads_get_bind fun _ p _ => ?_
    split
    · exact leads_pure _
    · exact (returns_modify _).bind fun _ => (returns_emit _).bind fun _ => leads_pure _
  have enters (library : Library M) : (loadExport library).Returns :=
    leads_get_bind fun _ _ _ => ((returns_modify _).zoom _ _).bind fun _ =>
      (returns_emit _).bind fun _ => leads_pure _
  refine leads_load_of_named fun name => (opens path name).bind fun opened => ?_
  cases opened with
  | error error => exact leads_pure _
  | ok library =>
    refine (enters library).bind fun entered => ?_
    cases entered with
    | error error => exact (returns_emit _).bind fun _ => leads_pure _
    | ok e => exact returns_register gentle library e

theorem returns_unload (gentle : Manager.Gentle M) (name : String) :
    (unload name : Action (Platform M) _).Returns := by
  refine leads_get_bind fun _ p _ => ?_
  split
  · exact leads_pure _
  · split
    · exact leads_pure _
    · refine ((Controller.returns_releaseNamespace gentle _).zoom _ _).bind fun _ =>
        (returns_modify _).bind fun _ => ?_
      refine (leads_forEach (fun library : Library M => returns_emit library.closing) _).bind fun _ => ?_
      exact (returns_emit _).bind fun _ => leads_pure _

end Platform

namespace Runtime

theorem returns_preInit (gentle : Manager.Gentle M) (site : Site M) : (preInit site).Returns := by
  refine leads_get_bind fun _ r _ => ?_
  split
  · exact (returns_emit _).bind fun _ => leads_pure _
  · refine (Returns.zoom (Platform.leads_discover (Platform.returns_load gentle site)) _ _).bind
      fun count => ?_
    exact (returns_modify _).bind fun _ => leads_pure _

theorem returns_init (gentle : Manager.Gentle M) (site : Site M) : (init site).Returns := by
  have starts : (start : Action (Runtime M) Unit).Returns := by
    refine (returns_onController (Controller.returns_dispatch gentle _)).bind fun _ => ?_
    refine (returns_onController (Controller.returns_dispatch gentle _)).bind fun _ => ?_
    exact (returns_modify _).bind fun _ => leads_get_bind fun _ _ _ => returns_emit _
  refine leads_get_bind fun _ r _ => ?_
  cases r.state with
  | created => exact (returns_preInit gentle site).bind fun _ => starts
  | loaded => exact starts
  | running | stopped => exact returns_emit _

theorem returns_update (gentle : Manager.Gentle M) : (update : Action (Runtime M) Unit).Returns := by
  refine leads_get_bind fun _ r _ => ?_
  split
  · refine (returns_onController (Controller.returns_dispatch gentle _)).bind fun _ => ?_
    refine (returns_onController (Controller.returns_dispatch gentle _)).bind fun _ => ?_
    exact (returns_onController (Controller.returns_dispatch gentle _)).bind fun _ => returns_modify _
  · exact leads_pure ()

theorem returns_unload (gentle : Manager.Gentle M) (name : String) :
    (unload name : Action (Runtime M) _).Returns := by
  refine leads_get_bind fun _ r _ => ?_
  split
  · exact leads_pure _
  · exact (Platform.returns_unload gentle name).zoom _ _

theorem returns_shutdown (gentle : Manager.Gentle M) : (shutdown : Action (Runtime M) Unit).Returns := by
  refine leads_get_bind fun _ r _ => ?_
  split
  · refine (returns_emit _).bind fun _ => ?_
    exact (returns_onController (Controller.returns_releaseAll gentle)).bind fun _ => returns_modify _
  · exact leads_pure ()

/-- Every call returns when the managers are gentle. -/
theorem Call.returns (gentle : Manager.Gentle M) (call : Call M) : call.act.Returns := by
  cases call with
  | addStatic manager => exact ((Platform.returns_addStatic gentle manager).zoom _ _).void
  | preInit site => exact (returns_preInit gentle site).void
  | init site => exact returns_init gentle site
  | update => exact returns_update gentle
  | unload name => exact (returns_unload gentle name).void
  | shutdown => exact returns_shutdown gentle
  | drop => exact ((returns_shutdown gentle).andFinally _).andFinally _

/-- Gentle hooks make for calm runs. -/
theorem calm_of_gentle (gentle : Manager.Gentle M) (r : Runtime M) (calls : List (Call M)) : Calm r calls :=
  fun before call _ _ => by
    obtain ⟨_, ok⟩ := returns_iff.mp (call.returns gentle) (reached Call.act r before)
    exact ok

end Runtime

end PluginHost
