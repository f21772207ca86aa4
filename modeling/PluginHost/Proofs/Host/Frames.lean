import PluginHost.Host
import PluginHost.Manager.Scripted
import PluginHost.Proofs.Runtime.Calm
import PluginHost.Proofs.Runtime.Custody
import PluginHost.Proofs.Runtime.Frames
import PluginHost.Proofs.Toml.Walk

namespace PluginHost.Host

open PluginHost.Action PluginHost.Runtime

variable {M : Type} [Manager M] {r : Runtime M} {site : Site M} {limit : UInt64} {n patience : Nat}

/-- The calls of a host that runs for some frames. -/
def course (site : Site M) (n : Nat) : List (Call M) :=
  [.preInit site, .init site] ++ List.replicate n .update ++ [.shutdown]

omit [Manager M] in
theorem forEach_log (lines : List String) (level : Log.Level) (target : String) :
    Action.forEach lines (Action.log level target) r =
      ⟨r, (lines.map fun line => ⟨level, target, line⟩).map .logged, .ok ()⟩ := by
  rw [List.map_map, List.map_eq_flatMap]
  exact forEach_emit lines _

/-- Before its first frame the host has made the two opening calls and written its status. -/
theorem start_run (calm : Calm r [.preInit site, .init site]) :
    let opening := [Call.preInit site, .init site]
    let ready := reached Call.act r opening
    start site r =
      ⟨ready, history Call.act r opening ++ (ready.statusText.map fun line => ⟨.info, target, line⟩).map .logged,
        .ok ()⟩ := by
  intro opening ready
  obtain ⟨looked, calm⟩ := calm.tail
  obtain ⟨count, looked⟩ := ok_of_void looked
  have started : (Runtime.init site (preInit site r).state).result = .ok () := calm.tail.1
  unfold start
  rw [bind_of_ok looked, bind_of_ok started, get_bind, forEach_log]
  simp [opening, ready, reached, history, Call.act, Action.void]

theorem frame_run (ok : (update r).result = .ok ()) :
    frame limit r =
      ⟨(update r).state, (update r).trace, .ok (decide (0 < limit ∧ limit ≤ (update r).state.frame))⟩ := by
  unfold frame
  rw [bind_of_ok ok, get_bind, pure_run, List.append_nil]

/-- The loop ends with the frame that the limit asks for, and else goes on after it. -/
theorem frames_succ (ok : (update r).result = .ok ()) :
    frames limit (patience + 1) r =
      if 0 < limit ∧ limit ≤ (update r).state.frame then ⟨(update r).state, (update r).trace, .ok true⟩
      else
        let rest := frames limit patience (update r).state
        ⟨rest.state, (update r).trace ++ rest.trace, rest.result⟩ := by
  rw [frames, bind_of_ok (by rw [frame_run ok]), frame_run ok]
  split <;> simp_all

/-- An update leaves one frame less to go, and only after the last is none left. -/
theorem left_update (running : r.state = .running) (ok : (update r).result = .ok ())
    (left : r.frame.toNat + (n + 1) = limit.toNat) :
    (update r).state.frame.toNat + n = limit.toNat ∧
      ((0 < limit ∧ limit ≤ (update r).state.frame) ↔ n = 0) := by
  have round : limit.toNat < 2 ^ 64 := limit.toNat_lt
  have moved : (update r).state.frame.toNat = r.frame.toNat + 1 := by
    rw [(running_update running ok).2, UInt64.toNat_add, UInt64.toNat_one]
    omega
  rw [UInt64.lt_iff_toNat_lt, UInt64.le_iff_toNat_le, UInt64.toNat_zero, moved]
  omega

/-- The frames that are left of the limit are run, and the last of them ends the loop. -/
theorem frames_run (running : r.state = .running) (some_left : 0 < n) (left : r.frame.toNat + n = limit.toNat)
    (calm : Calm r (List.replicate n .update)) (patient : n ≤ patience) :
    frames limit patience r =
      ⟨reached Call.act r (List.replicate n .update), history Call.act r (List.replicate n .update), .ok true⟩ := by
  -- on the frames that are left: the frame of the runtime moves with each of them, so only the last meets the limit
  induction n, some_left using Nat.le_induction generalizing r patience with
  | base =>
    obtain ⟨patience, rfl⟩ := Nat.exists_eq_add_of_le' patient
    have ok : (update r).result = .ok () := calm.tail.1
    obtain ⟨-, ends⟩ := left_update running ok left
    rw [frames_succ ok, if_pos (ends.mpr rfl)]
    simp [reached, history, Call.act]
  | succ n some_left ih =>
    obtain ⟨patience, rfl⟩ := Nat.exists_eq_add_of_le' (le_of_add_le_right patient)
    obtain ⟨ok, calm⟩ := calm.tail
    obtain ⟨left, ends⟩ := left_update running ok left
    rw [frames_succ ok, if_neg fun last => Nat.ne_of_gt some_left (ends.mp last),
      ih (running_update running ok).1 left calm (by omega)]
    rfl

/-- A limit of zero is none: only a panic or an interrupt ends the loop. -/
theorem frames_unlimited (patience : Nat) (r : Runtime M) : (frames 0 patience r).result ≠ .ok true := by
  induction patience generalizing r with
  | zero => simp [frames]
  | succ patience ih =>
    cases result : (update r).result with
    | ok _ =>
      rw [frames_succ result, if_neg fun last => UInt64.lt_irrefl 0 last.1]
      exact ih _
    | error panic =>
      have broken : (frame 0 r).result = .error panic := by rw [frame, bind_of_error result]
      rw [frames, bind_of_error broken]
      exact nofun

theorem finish_run (ok : (shutdown r).result = .ok ()) :
    finish r = ⟨(shutdown r).state, (shutdown r).trace ++ [.logged ⟨.info, target, "Goodbye"⟩], .ok ()⟩ := by
  unfold finish
  rw [bind_of_ok ok]
  rfl

/-- A host that is not interrupted before its last frame makes the calls of its course, and logs beside them. -/
theorem run_course (calm : Calm r (course site n)) :
    let ready := reached Call.act r [.preInit site, .init site]
    let last := reached Call.act ready (List.replicate n .update)
    frames (frameLimit ready.holder) patience ready =
        ⟨last, history Call.act ready (List.replicate n .update), .ok true⟩ →
      (run site patience r).result = .ok () ∧ (run site patience r).state = reached Call.act r (course site n) ∧
        deeds (run site patience r).trace = deeds (history Call.act r (course site n)) := by
  intro ready last looped
  have started := start_run calm.of_append.of_append
  have finished := finish_run calm.after.tail.1
  rw [reached_append] at finished
  unfold run
  rw [bind_of_ok (by rw [started]), started, get_bind, bind_of_ok (by rw [looped]), looped, finished]
  simp [-List.map_map, course, reached, history, Call.act, ready]

omit [Manager M] in
/-- Where nothing panics there is nothing to report. -/
theorem reported_of_ok {α : Type} {x : Action (Runtime M) α} {a : α} (ok : (x r).result = .ok a) :
    reported x r = x r := by
  unfold reported
  generalize x r = run at ok ⊢
  obtain ⟨state, trace, result⟩ := run
  subst ok
  rfl

/-- A run that returns is followed by the end of the runtime. -/
theorem ended_run (ok : (run site patience r).result = .ok ()) :
    let main := run site patience r
    ((reported (run site patience)).andFinally Runtime.drop) r =
      ⟨(drop main.state).state, main.trace ++ (drop main.state).trace, .ok ()⟩ := by
  simp only [Action.andFinally, reported_of_ok ok, ok]

/-- The shared settings ask for a number of frames. -/
def Asks (frames : Int64) (holder : Holder) : Prop :=
  holder.settings.getInt? Settings.runtime "host.frames" = some frames

theorem asks_ofConfig {config : RuntimeConfig} {frames : Int64}
    (configured : config.settings.Reaches ["host", "frames"] (.integer frames)) (exeDir : Path) (logger : Log.Filter) :
    Asks frames (Holder.ofConfig config exeDir logger) := by
  have found : config.settings.dotted? "host.frames" = some (.integer frames) :=
    Toml.Table.dotted?_eq_some_iff.mpr configured
  simp [Asks, Holder.ofConfig, Settings.getInt?, Settings.get?, Settings.insert, found, Toml.Value.asInt?]

/-- A number of frames that is asked for is the limit. -/
theorem frameLimit_of_asks {frames : Int64} {holder : Holder} (asks : Asks frames holder) (positive : 0 < frames) :
    (frameLimit holder).toNat = frames.toNatClampNeg := by
  have limit : frameLimit holder = frames.toUInt64 := by
    unfold frameLimit setting
    rw [show holder.settings.getInt? _ _ = _ from asks]
    exact if_neg (Int64.not_lt.mpr (Int64.le_of_lt positive))
  rw [limit, Int64.toNat_toUInt64_of_le (Int64.le_of_lt positive)]

/-- A frame time that is not positive is no wait. -/
theorem frameTime_of_nonpos {ms : Int64} {holder : Holder}
    (asks : holder.settings.getInt? Settings.runtime "host.frame_ms" = some ms) (nonpos : ms ≤ 0) :
    frameTime holder = 0 := by
  unfold frameTime setting
  rw [asks]
  by_cases negative : ms < 0
  · exact if_pos negative
  · obtain rfl := Int64.le_antisymm nonpos (Int64.not_lt.mp negative)
    rfl

/-- What the course of a host is for the runtime and for everyone who is aboard at its first frame. -/
theorem course_spec (config : RuntimeConfig) (exeDir : Path) (logger : Log.Filter) (site : Site M) (n : Nat)
    (calm : Calm (ofConfig config exeDir logger).1 (course site n)) :
    let fresh : Runtime M := (ofConfig config exeDir logger).1
    let ready := reached Call.act fresh [.preInit site, .init site]
    (ready.state = .running ∧ ready.frame = 0) ∧
      (reached Call.act ready (List.replicate n .update)).frame = .ofNat n ∧
      effective fresh (course site n ++ [.drop]) = course site n ∧
      deeds (drop (reached Call.act fresh (course site n))).trace = [] ∧
      ∀ m, ready.controller.Employs m →
        story m (history Call.act fresh (course site n)) = aboard true n m ++ parting m := by
  intro fresh ready
  let last := reached Call.act ready (List.replicate n .update)
  obtain ⟨opened, crew, abreast⟩ := abreast_started config exeDir logger site calm.of_append.of_append
  change Abreast crew 0 _ ready at abreast
  have rounds : Abreast crew (0 + n) _ last := abreast.run calm.of_append.after
  have shut : (shutdown last).result = .ok () := by
    have ok := calm.after.tail.1
    rwa [reached_append] at ok
  obtain ⟨stopped, silent, whole⟩ := rounds.ended shut
  rw [Nat.zero_add] at rounds whole
  have whole_course : reached Call.act fresh (course site n) = (shutdown last).state := by
    rw [course, reached_append, reached_append]
    rfl
  refine ⟨⟨abreast.2.1, abreast.2.2⟩, rounds.2.2, ?_, by rw [whole_course, silent], fun m employed => ?_⟩
  · have heeded : Call.heeded last .shutdown := by simp [Call.heeded, rounds.2.1]
    have ignored : Call.heeded (shutdown last).state .drop = false := by simp [Call.heeded, stopped]
    have ends : effective last [.shutdown, .drop] = [.shutdown] := by
      simp [effective, heeded, Call.act, ignored]
    rw [course, List.append_assoc, effective_append, effective_append, reached_append, opened,
      effective_updates abreast.2.1 calm.of_append.after]
    exact congrArg (_ ++ ·) ends
  · have employed : last.controller.Employs m :=
      (rounds.1.holds.employs_iff m).mpr ((abreast.1.holds.employs_iff m).mp employed)
    have parts : history Call.act fresh (course site n) = history Call.act fresh [.preInit site, .init site] ++
        history Call.act ready (List.replicate n .update) ++ ((shutdown last).trace ++ []) := by
      rw [course, history_append, history_append, reached_append]
      rfl
    rw [← story_deeds, parts, List.append_nil, deeds_append, deeds_append]
    exact whole m employed

/-- A host that is not interrupted runs for as many frames as the settings ask for once everyone is initialised,
and then shuts down once. -/
theorem stops_after_frames (config : RuntimeConfig) (exeDir : Path) (logger : Log.Filter) (site : Site M) :
    let fresh : Runtime M := (ofConfig config exeDir logger).1
    let ready := reached Call.act fresh [.preInit site, .init site]
    (∀ n, config.settings.Reaches ["host", "frames"] (.integer n) → Manager.Respects M (Asks n) →
        site.Respects (Asks n) → Asks n ready.holder) ∧
      ∀ (n : Int64) (patience : Nat), 0 < n → Asks n ready.holder → n.toNatClampNeg ≤ patience →
        let count := n.toNatClampNeg
        let loop := frames (frameLimit ready.holder) patience ready
        let main := run site patience fresh
        let life := ((reported (run site patience)).andFinally Runtime.drop) fresh
        Calm fresh (course site count) →
          (loop.result = .ok true ∧ loop.state.frame.toNat = count) ∧
          (main.result = .ok () ∧ main.state = reached Call.act fresh (course site count) ∧
            deeds main.trace = deeds (history Call.act fresh (course site count))) ∧
          effective fresh (course site count ++ [.drop]) = course site count ∧
          (life.result = .ok () ∧ deeds life.trace = deeds main.trace) ∧
          (∀ m, ready.controller.Employs m →
            story m life.trace =
              .called m .attach :: hears (lifeline true count) m ++
                (hears [.release, .postRelease] m ++ [.destroyed m]) ∧
            ∀ phase ∈ [Phase.preUpdate, .update, .postUpdate],
              life.trace.count (.called m (.phase phase)) = count) ∧
          ∀ ms, ready.holder.settings.getInt? Settings.runtime "host.frame_ms" = some ms → ms ≤ 0 →
            frameTime ready.holder = 0 := by
  intro fresh ready
  refine ⟨fun n configured respects polite => keeps_opening respects polite (asks_ofConfig configured exeDir logger), ?_⟩
  intro n patience positive asks patient count loop main life calm
  obtain ⟨⟨running, fresh_frame⟩, frame, heeded, silent, stories⟩ := course_spec config exeDir logger site count calm
  have limit : (frameLimit ready.holder).toNat = count := frameLimit_of_asks asks positive
  -- the counter stands at zero when the loop begins, so all of the frames are left
  have left : ready.frame.toNat + count = (frameLimit ready.holder).toNat := by
    rw [fresh_frame, limit, UInt64.toNat_zero, Nat.zero_add]
  have looped := frames_run running ((Int64.toNatClampNeg_pos_iff n).mpr positive) left calm.of_append.after patient
  obtain ⟨ok, state, trace⟩ := run_course calm looped
  have ended : life = _ := ended_run ok
  have same : deeds life.trace = deeds main.trace := by
    rw [ended, deeds_append, state, silent, List.append_nil]
  have told : ∀ m, ready.controller.Employs m → story m life.trace = aboard true count m ++ parting m := by
    intro m employed
    rw [← story_deeds, same, trace, story_deeds]
    exact stories m employed
  refine ⟨⟨congrArg Run.result looped, ?_⟩, ⟨ok, state, trace⟩, heeded, ⟨by rw [ended], same⟩,
    fun m employed => ⟨told m employed, fun phase framed => ?_⟩, fun ms asked nonpos => frameTime_of_nonpos asked nonpos⟩
  · rw [show loop = _ from looped, frame, UInt64.toNat_ofNat_of_lt' (limit ▸ UInt64.toNat_lt _)]
  · have heard : Event.befalls m (.called m (.phase phase)) := by simp [Event.befalls]
    rw [← count_story heard, told m employed, count_whole_life framed]

/-- A host with a heartbeat that is asked for two frames, at an interval below zero. -/
theorem stops_after_frames_heartbeat :
    let config : RuntimeConfig :=
      { settings := [("host", .table [("frames", .integer 2), ("frame_ms", .integer (-5))])] }
    let files : Files := ⟨fun _ => true, fun _ => .ok "", fun _ => some (.ok [⟨⟨[109, 46, 115, 111]⟩, true⟩])⟩
    let site : Site Heartbeat := ⟨files, fun _ => .ok ⟨fun _ => some (enter Heartbeat.build)⟩⟩
    let fresh : Runtime Heartbeat := (ofConfig config ⟨[]⟩ .off).1
    let ready := reached Call.act fresh [.preInit site, .init site]
    let life := ((reported (run site 7)).andFinally Runtime.drop) fresh
    config.settings.Reaches ["host", "frames"] (.integer 2) ∧ Asks 2 ready.holder ∧ Calm fresh (course site 2) ∧
      (frames (frameLimit ready.holder) 7 ready).state.frame.toNat = 2 ∧ (run site 7 fresh).state.state = .stopped ∧
      life.result = .ok () ∧
      (∀ phase ∈ [Phase.preUpdate, .update, .postUpdate], life.trace.count (.called ⟨0⟩ (.phase phase)) = 2) ∧
      frameTime ready.holder = 0 := by
  intro config files site fresh ready life
  have reaches : config.settings.Reaches ["host", "frames"] (.integer 2) := .through rfl (.last rfl)
  have respects : Manager.Respects Heartbeat (Asks 2) := fun _ _ _ asks => asks
  have polite : site.Respects (Asks 2) := by
    intro path image symbol entry opens exported holder asks
    cases opens
    cases exported
    exact asks
  have calm : Calm fresh (course site 2) := calm_of_gentle gentle_heartbeat fresh _
  obtain ⟨configured, stops⟩ := stops_after_frames config ⟨[]⟩ .off site
  have asks : Asks 2 ready.holder := configured 2 reaches respects polite
  obtain ⟨⟨-, frame⟩, ⟨-, state, -⟩, -, ⟨ok, -⟩, told, waits⟩ := stops 2 7 (by decide) asks (by decide) calm
  have employed : ready.controller.Employs ⟨0⟩ :=
    Controller.employs_of_filed (show Option.map _ _[Heartbeat.key]? = _ by decide +kernel)
  refine ⟨reaches, asks, calm, frame, ?_, ok, (told ⟨0⟩ employed).2, waits (-5) (by decide +kernel) (by decide)⟩
  rw [state]
  decide +kernel

/-- A manager that replaces the settings while it is initialised takes the limit away, and panics nowhere. -/
theorem replaced_settings_lift_limit :
    let config : RuntimeConfig := { settings := [("host", .table [("frames", .integer 3)])] }
    let clerk : Scripted :=
      { key := ⟨"desk::Clerk"⟩, label := "clerk", script := { write? := some (.phase .init, Settings.runtime, 7) } }
    let files : Files := ⟨fun _ => true, fun _ => .ok "", fun _ => some (.ok [⟨⟨[109, 46, 115, 111]⟩, true⟩])⟩
    let site : Site Scripted := ⟨files, fun _ => .ok ⟨fun _ => some (enter fun holder => ⟨.ok clerk, holder, []⟩)⟩⟩
    let fresh : Runtime Scripted := (ofConfig config ⟨[]⟩ .off).1
    let ready := reached Call.act fresh [.preInit site, .init site]
    config.settings.Reaches ["host", "frames"] (.integer 3) ∧
      (run site 5 fresh).result = .ok () ∧ (run site 5 fresh).state.frame = 5 ∧
      ∀ patience, (frames (frameLimit ready.holder) patience ready).result ≠ .ok true := by
  intro config clerk files site fresh ready
  have unlimited : frameLimit ready.holder = 0 := by decide +kernel
  refine ⟨.through rfl (.last rfl), by decide +kernel, by decide +kernel, fun patience => ?_⟩
  rw [unlimited]
  exact frames_unlimited patience ready

end PluginHost.Host
