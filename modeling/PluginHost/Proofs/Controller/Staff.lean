import PluginHost.Proofs.Controller.Interruption
import PluginHost.Proofs.Controller.Roster

namespace PluginHost.Controller

variable {M : Type}

/-- What is done with a controller, or with what it holds. -/
inductive Deal (M : Type) where
  | call (asked : Call M)
  | callOne (key : TypeKey) (phase : Phase)
  | change (key : TypeKey) (f : M → M)
  | configure (f : Holder → Holder)

variable [Manager M] {c : Controller M} {past : List Member}

namespace Deal

def act : Deal M → Action (Controller M) Unit
  | call asked => asked.act
  | callOne key phase => (dispatchOne key phase).void
  | change key f => .modify (·.change key f)
  | configure f => .modify fun c => { c with holder := f c.holder }

/-- Who is registered in a deal. -/
def hires (c : Controller M) : Deal M → List Member
  | call asked => asked.hires c
  | callOne _ _ | change _ _ | configure _ => []

end Deal

/-- Who is registered in the course of deals, in order, whether or not they stay. -/
def engaged (c : Controller M) : List (Deal M) → List Member
  | [] => []
  | deal :: rest => deal.hires c ++ engaged (deal.act c).state rest

/-- Whoever was registered in the course of deals and is there in the end, in the order of registration. -/
def staff (c : Controller M) (deals : List (Deal M)) : List Member :=
  (engaged c deals).filter (·.serves (Action.reached Deal.act c deals))

/-- Nothing that a controller is asked to do brings anyone but whom it hires, or changes the order of the others. -/
theorem Enlisted.deal (enlisted : c.Enlisted past) (deal : Deal M) :
    (deal.act c).state.Enlisted (past ++ deal.hires c) := by
  obtain ⟨crew, holds, left⟩ := enlisted.crew
  cases deal with
  | call asked => exact enlisted.step asked
  | callOne key phase =>
    obtain ⟨same, offered, -⟩ := dispatchOne_spec holds key phase
    exact (List.append_nil past).symm ▸ enlisted.of_crew same left offered
  | change key f =>
    obtain ⟨same, offered⟩ := holds_change holds key f
    exact (List.append_nil past).symm ▸ enlisted.of_crew same left offered
  | configure f =>
    have same : ({ c with holder := f c.holder } : Controller M).Holds crew :=
      holds.of_registry holds.toHolds rfl le_rfl
    exact (List.append_nil past).symm ▸ enlisted.of_crew same left rfl

/-- The same after any number of things, by induction on them. -/
theorem Enlisted.deals (enlisted : c.Enlisted past) (deals : List (Deal M)) :
    (Action.reached Deal.act c deals).Enlisted (past ++ engaged c deals) := by
  induction deals generalizing c past with
  | nil => simpa [engaged, Action.reached] using enlisted
  | cons deal deals ih =>
    have rest := ih (enlisted.deal deal)
    rwa [List.append_assoc] at rest

/-- The crew is whom the controller engaged and still serves, in the order in which they came. -/
theorem holds_staff (holder : Holder) (deals : List (Deal M)) :
    (Action.reached Deal.act { holder } deals).Holds (staff { holder } deals) := by
  have start : Enlisted ({ holder } : Controller M) [] := ⟨⟨[], holds_new holder, .slnil⟩, .nil, nofun⟩
  exact (start.deals deals).holds

end PluginHost.Controller
