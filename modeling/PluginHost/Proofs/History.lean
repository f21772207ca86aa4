import PluginHost.Action

namespace PluginHost

/-- What happened beyond the writing of log records. -/
def deeds (trace : List Event) : List Event := trace.filter (·.record?.isNone)

@[simp]
theorem deeds_nil : deeds [] = [] := rfl

@[simp]
theorem deeds_cons (e : Event) (trace : List Event) :
    deeds (e :: trace) = if e.record?.isNone then e :: deeds trace else deeds trace :=
  List.filter_cons

@[simp]
theorem deeds_append (first second : List Event) : deeds (first ++ second) = deeds first ++ deeds second :=
  List.filter_append ..

@[simp]
theorem deeds_logged (records : List Log.Record) : deeds (records.map .logged) = [] := by
  simp [deeds, Event.record?]

theorem deeds_flatMap {α : Type} {f : α → List Event} {g : α → Event}
    (one : ∀ a, deeds (f a) = [g a]) (items : List α) :
    deeds (items.flatMap f) = items.map g := by
  induction items with
  | nil => rfl
  | cons item items ih => rw [List.flatMap_cons, deeds_append, one, ih, List.map_cons, List.singleton_append]

theorem mem_deeds {e : Event} {trace : List Event} : e ∈ deeds trace ↔ e ∈ trace ∧ e.record? = none := by
  simp [deeds]

theorem count_deeds {e : Event} (deed : e.record? = none) (trace : List Event) :
    (deeds trace).count e = trace.count e :=
  List.count_filter (by rw [deed]; rfl)

attribute [simp] Event.record?

namespace Action

variable {σ τ α β : Type} {x : Action σ α} {f : α → Action σ β} {s : σ}

/-- What an operation does when the part before it has given its answer: it goes on from the state that was left. -/
theorem bind_of_ok {a : α} (ok : (x s).result = .ok a) :
    (x >>= f) s = ⟨(f a (x s).state).state, (x s).trace ++ (f a (x s).state).trace,
      (f a (x s).state).result⟩ := by
  cases run : x s with
  | mk state trace result =>
    rw [run] at ok
    subst ok
    simp only [bind, run]

/-- A panic ends the whole: nothing of the later part is done, and what was reached stays. -/
theorem bind_of_error {panic : Panic} (error : (x s).result = .error panic) :
    (x >>= f) s = ⟨(x s).state, (x s).trace, .error panic⟩ := by
  cases run : x s with
  | mk state trace result =>
    rw [run] at error
    subst error
    simp only [bind, run]

protected theorem bind_pure (x : Action σ α) : x >>= pure = x := by
  funext s
  cases result : (x s).result with
  | error panic => rw [bind_of_error result, ← result]
  | ok a => rw [bind_of_ok result]; simp [pure, ← result]

protected theorem bind_assoc {γ : Type} (x : Action σ α) (f : α → Action σ β) (g : β → Action σ γ) :
    x >>= f >>= g = x >>= fun a => f a >>= g := by
  funext s
  cases first : (x s).result with
  | error panic => rw [bind_of_error first, bind_of_error (by rw [bind_of_error first]), bind_of_error first]
  | ok a =>
    rw [bind_of_ok first]
    cases second : (f a (x s).state).result with
    | error panic =>
      have broken : ((x >>= f) s).result = .error panic := by rw [bind_of_ok first, second]
      rw [bind_of_error broken, bind_of_error second, bind_of_ok first]
    | ok b =>
      have whole : ((x >>= f) s).result = .ok b := by rw [bind_of_ok first, second]
      rw [bind_of_ok whole, bind_of_ok second, bind_of_ok first, List.append_assoc]

protected theorem bind_congr {y : Action σ α} {g : α → Action σ β} (first : x s = y s)
    (later : ∀ a, f a (y s).state = g a (y s).state) : (x >>= f) s = (y >>= g) s := by
  cases result : (y s).result with
  | error panic => rw [bind_of_error (by rw [first, result]), bind_of_error result, first]
  | ok a => rw [bind_of_ok (by rw [first, result]), bind_of_ok result, first, later]

theorem onPanic_of_ok {y : Action σ Unit} {a : α} (ok : (x s).result = .ok a) : x.onPanic y s = x s := by
  unfold onPanic
  generalize x s = run at ok ⊢
  obtain ⟨state, trace, result⟩ := run
  subst ok
  rfl

theorem onPanic_of_error {y : Action σ Unit} {panic : Panic} (error : (x s).result = .error panic) :
    x.onPanic y s = ⟨(y (x s).state).state, (x s).trace ++ (y (x s).state).trace, .error panic⟩ := by
  unfold onPanic
  generalize x s = run at error ⊢
  obtain ⟨state, trace, result⟩ := run
  subst error
  rfl

@[simp]
theorem pure_run (a : α) : (pure a : Action σ α) s = ⟨s, [], .ok a⟩ := rfl

@[simp]
theorem get_bind (f : σ → Action σ β) : (Action.get >>= f) s = f s s := rfl

@[simp]
theorem modify_run (g : σ → σ) : Action.modify g s = ⟨g s, [], .ok ()⟩ := rfl

@[simp]
theorem modify_bind (g : σ → σ) (f : Unit → Action σ β) : (Action.modify g >>= f) s = f () (g s) := rfl

@[simp]
theorem emit_run (events : List Event) : (Action.emit events : Action σ Unit) s = ⟨s, events, .ok ()⟩ := rfl

@[simp]
theorem emit_bind (events : List Event) (f : Unit → Action σ β) :
    (Action.emit events >>= f) s = ⟨(f () s).state, events ++ (f () s).trace, (f () s).result⟩ := rfl

@[simp]
theorem log_run (level : Log.Level) (target text : String) :
    (Action.log level target text : Action σ Unit) s = ⟨s, [.logged ⟨level, target, text⟩], .ok ()⟩ := rfl

@[simp]
theorem log_bind (level : Log.Level) (target text : String) (f : Unit → Action σ β) :
    (Action.log level target text >>= f) s =
      ⟨(f () s).state, .logged ⟨level, target, text⟩ :: (f () s).trace, (f () s).result⟩ := rfl

theorem forEach_emit (items : List α) (f : α → List Event) :
    Action.forEach items (fun item => Action.emit (f item)) s = ⟨s, items.flatMap f, .ok ()⟩ := by
  induction items with
  | nil => rfl
  | cons item items ih =>
    rw [Action.forEach, emit_bind, ih]
    rfl

theorem log_if (note : Prop) [Decidable note] (level : Log.Level) (target text : String) :
    ∃ trace, deeds trace = [] ∧
      ((if note then Action.log level target text else pure ()) : Action σ Unit) s = ⟨s, trace, .ok ()⟩ := by
  split
  · exact ⟨_, by simp, log_run level target text⟩
  · exact ⟨[], rfl, rfl⟩

/-- The operation without its answer. -/
def void (x : Action σ α) : Action σ Unit := fun s => ⟨(x s).state, (x s).trace, (x s).result.map fun _ => ()⟩

/-- An operation that is run without its answer has given one. -/
theorem ok_of_void (ok : (x.void s).result = .ok ()) : ∃ a, (x s).result = .ok a := by
  cases result : (x s).result with
  | ok a => exact ⟨a, rfl⟩
  | error panic =>
    unfold Action.void at ok
    rw [result] at ok
    cases ok

/--
The operation leads from one property of what has happened and of the state to another. Where it
panics, it leaves a third.
-/
def Leads (pre post fail : List Event → σ → Prop) (x : Action σ α) : Prop :=
  ∀ past s, pre past s → match (x s).result with
    | .ok _ => post (past ++ deeds (x s).trace) (x s).state
    | .error _ => fail (past ++ deeds (x s).trace) (x s).state

variable {pre mid post fail I : List Event → σ → Prop}

theorem Leads.of_ok (leads : x.Leads pre post fail) {past : List Event} (start : pre past s) {a : α}
    (ok : (x s).result = .ok a) : post (past ++ deeds (x s).trace) (x s).state := by
  have next := leads past s start
  rwa [ok] at next

theorem leads_of_ok (leads : ∀ past s, pre past s → ∀ a, (x s).result = .ok a →
    post (past ++ deeds (x s).trace) (x s).state) : x.Leads pre post fun _ _ => True := by
  intro past s start
  cases result : (x s).result with
  | error panic => trivial
  | ok a => exact leads past s start a result

theorem leads_always (leads : ∀ past s, pre past s → post (past ++ deeds (x s).trace) (x s).state) :
    x.Leads pre post post := by
  intro past s start
  split <;> exact leads past s start

theorem Leads.either (leads : x.Leads pre post post) (past : List Event) (start : pre past s) :
    post (past ++ deeds (x s).trace) (x s).state := by
  have next := leads past s start
  split at next <;> exact next

theorem leads_pure (a : α) : (pure a : Action σ α).Leads pre pre fail := by
  intro past s start
  simpa using start

/-- Operations one after the other. Either may break off, so both have to leave the same in that case. -/
theorem Leads.bind (first : x.Leads pre mid fail) (second : ∀ a, (f a).Leads mid post fail) :
    (x >>= f).Leads pre post fail := by
  intro past s start
  have middle := first past s start
  cases result : (x s).result with
  | error panic =>
    rw [result] at middle
    rw [bind_of_error result]
    exact middle
  | ok a =>
    rw [result] at middle
    rw [bind_of_ok result]
    simpa using second a _ _ middle

/-- What an operation leads to can be weakened, and what it starts from strengthened. -/
theorem Leads.imp (leads : x.Leads pre post fail) {pre' post' fail' : List Event → σ → Prop}
    (before : ∀ past s, pre' past s → pre past s) (after : ∀ past s, post past s → post' past s)
    (broken : ∀ past s, fail past s → fail' past s) : x.Leads pre' post' fail' := by
  intro past s start
  have next := leads past s (before past s start)
  split at next
  · exact after _ _ next
  · exact broken _ _ next

theorem Leads.void (leads : x.Leads pre post fail) : x.void.Leads pre post fail := by
  intro past s start
  have next := leads past s start
  unfold Action.void
  cases result : (x s).result with
  | error panic =>
    rw [result] at next
    exact next
  | ok a =>
    rw [result] at next
    exact next

theorem leads_get_bind {f : σ → Action σ β} (leads : ∀ past s, pre past s → (f s).Leads pre post fail) :
    (Action.get >>= f).Leads pre post fail :=
  fun past s start => leads past s start past s start

theorem leads_emit {events : List Event} (idle : deeds events = []) :
    (Action.emit events : Action σ Unit).Leads pre pre fail := by
  intro past s start
  simpa [idle] using start

theorem leads_log {level : Log.Level} {target text : String} :
    (Action.log level target text : Action σ Unit).Leads pre pre fail :=
  leads_emit (by simp)

theorem leads_modify {g : σ → σ} (keeps : ∀ past s, pre past s → post past (g s)) :
    (Action.modify g).Leads pre post fail := by
  intro past s start
  simpa using keeps past s start

/-- What every single operation of a row keeps, the row keeps, by induction on the row. -/
theorem leads_forEach {f : α → Action σ Unit} (leads : ∀ a, (f a).Leads I I fail) (items : List α) :
    (Action.forEach items f).Leads I I fail := by
  induction items with
  | nil => exact leads_pure ()
  | cons item items ih => exact (leads item).bind fun _ => ih

/-- The operation keeps a property, panics or not. -/
def Keeps (I : List Event → σ → Prop) (x : Action σ α) : Prop := x.Leads I I I

theorem keeps_iff : x.Keeps I ↔ ∀ past s, I past s → I (past ++ deeds (x s).trace) (x s).state :=
  ⟨fun keeps past _ start => keeps.either past start, leads_always⟩

variable {Op : Type} (act : Op → Action σ Unit)

/-- The state after operations, one after the other. -/
def reached (s : σ) : List Op → σ
  | [] => s
  | op :: rest => reached (act op s).state rest

/-- What happens in operations, one after the other. -/
def history (s : σ) : List Op → List Event
  | [] => []
  | op :: rest => (act op s).trace ++ history (act op s).state rest

@[simp]
theorem reached_append (s : σ) (first second : List Op) :
    reached act s (first ++ second) = reached act (reached act s first) second := by
  induction first generalizing s with
  | nil => rfl
  | cons op first ih => exact ih _

@[simp]
theorem history_append (s : σ) (first second : List Op) :
    history act s (first ++ second) = history act s first ++ history act (reached act s first) second := by
  induction first generalizing s with
  | nil => rfl
  | cons op first ih => simp [history, reached, ih]

variable {act}

/-- The run lemma: what each operation keeps holds after any number of them, by induction on the operations. -/
theorem Keeps.run (keeps : ∀ op, (act op).Keeps I) {past : List Event} (start : I past s) (ops : List Op) :
    I (past ++ deeds (history act s ops)) (reached act s ops) := by
  induction ops generalizing past s with
  | nil => simpa [history, reached] using start
  | cons op ops ih => simpa [history, reached] using ih (keeps_iff.mp (keeps op) past s start)

end Action

end PluginHost
