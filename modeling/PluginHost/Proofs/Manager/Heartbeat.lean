import Mathlib.Algebra.GroupWithZero.Nat
import Mathlib.Data.List.Induction
import PluginHost.Manager.Heartbeat

namespace PluginHost

/-- One more item that is no separator belongs to the last piece. -/
theorem exists_splitOn_concat {α : Type} [BEq α] [LawfulBEq α] {separator x : α} (other : x ≠ separator)
    (xs : List α) : ∃ whole last, xs.splitOn separator = whole ++ [last] ∧
      (xs ++ [x]).splitOn separator = whole ++ [last ++ [x]] := by
  induction xs with
  | nil => exact ⟨[], [], by simp, List.splitOn_eq_singleton (by simpa using other.symm)⟩
  | cons c rest ih =>
    obtain ⟨whole, last, before, after⟩ := ih
    rw [List.cons_append, List.splitOn_cons_eq_if_modifyHead, List.splitOn_cons_eq_if_modifyHead, before, after]
    split
    · exact ⟨[] :: whole, last, rfl, rfl⟩
    · cases whole with
      | nil => exact ⟨[], c :: last, rfl, rfl⟩
      | cons first more => exact ⟨(c :: first) :: more, last, rfl, rfl⟩

namespace Heartbeat

/-- The heartbeat after some hooks. -/
def after (h : Heartbeat) (hooks : List Hook) : Heartbeat := hooks.foldl (fun h hook => (h.step hook).1) h

/-- What the heartbeat writes on some hooks. -/
def written (h : Heartbeat) : List Hook → List Log.Record
  | [] => []
  | hook :: later => (h.step hook).2 ++ (h.step hook).1.written later

/-- The record of a beat. -/
def beat (number : Nat) : Log.Record := ⟨.debug, target, "Heartbeat #" ++ toString number⟩

/-- Whether a record is that of a beat. -/
def isBeat (record : Log.Record) : Bool := "Heartbeat #".toList.isPrefixOf record.text.toList

/-- The updates of each stretch: initialisations stand between the stretches. -/
def stretches (hooks : List Hook) : List Nat :=
  (hooks.splitOn (.phase .init)).map (List.count (.phase .update))

theorem stretches_ne_nil (hooks : List Hook) : stretches hooks ≠ [] := by
  simp [stretches, List.splitOn_ne_nil]

/-- The updates since the last initialisation. -/
def lastStretch (hooks : List Hook) : Nat := (stretches hooks).getLast (stretches_ne_nil hooks)

/-- The whole periods in all stretches. -/
def due (every : Nat) (hooks : List Hook) : Nat := ((stretches hooks).map (· / every)).sum

/-- The hook is an update that completes a period of its stretch. -/
def Completes (every : Nat) (past : List Hook) (hook : Hook) : Prop :=
  hook = .phase .update ∧ every ∣ lastStretch (past ++ [hook])

instance (every : Nat) (past : List Hook) (hook : Hook) : Decidable (Completes every past hook) :=
  inferInstanceAs (Decidable (_ ∧ _))

variable {h : Heartbeat} {hooks past : List Hook} {hook : Hook} {earlier : List Nat} {n every : Nat}

theorem lastStretch_eq (split : stretches hooks = earlier ++ [n]) : lastStretch hooks = n := by
  simp [lastStretch, split]

theorem due_eq (split : stretches hooks = earlier ++ [n]) :
    due every hooks = (earlier.map (· / every)).sum + n / every := by
  simp [due, split]

theorem stretches_init (past : List Hook) : stretches (past ++ [.phase .init]) = stretches past ++ [0] := by
  simp [stretches, List.splitOn_append_cons_self]

theorem exists_stretches_concat (other : hook ≠ .phase .init) (past : List Hook) : ∃ earlier n,
    stretches past = earlier ++ [n] ∧ stretches (past ++ [hook]) = earlier ++ [n + [hook].count (.phase .update)] := by
  obtain ⟨pieces, last, before, after⟩ := exists_splitOn_concat other past
  exact ⟨pieces.map (List.count (.phase .update)), last.count (.phase .update), by simp [stretches, before],
    by simp [stretches, after]⟩

theorem lastStretch_init (past : List Hook) : lastStretch (past ++ [.phase .init]) = 0 :=
  lastStretch_eq (stretches_init past)

theorem lastStretch_concat (other : hook ≠ .phase .init) (past : List Hook) :
    lastStretch (past ++ [hook]) = lastStretch past + [hook].count (.phase .update) := by
  obtain ⟨earlier, n, before, after⟩ := exists_stretches_concat other past
  rw [lastStretch_eq before, lastStretch_eq after]

theorem lastStretch_update (past : List Hook) : lastStretch (past ++ [.phase .update]) = lastStretch past + 1 := by
  rw [lastStretch_concat (by decide) past, List.count_singleton_self]

theorem count_of_ne (still : hook ≠ .phase .update) : [hook].count (.phase .update) = 0 := by
  simpa [List.count_eq_zero] using Ne.symm still

/-- A hook brings one more whole period if it completes one. -/
theorem due_concat (every : Nat) (past : List Hook) (hook : Hook) :
    due every (past ++ [hook]) = due every past + if Completes every past hook then 1 else 0 := by
  by_cases init : hook = .phase .init
  · subst init
    simp [due, stretches_init, Completes]
  · obtain ⟨earlier, n, before, after⟩ := exists_stretches_concat init past
    by_cases update : hook = .phase .update
    · subst update
      simp [due_eq before, due_eq after, Completes, lastStretch_eq after, Nat.succ_div, Nat.add_assoc]
    · simp [due_eq before, due_eq after, Completes, update, count_of_ne update]

/-- No stretch is longer than there were updates. -/
theorem lastStretch_le (hooks : List Hook) : lastStretch hooks ≤ hooks.count (.phase .update) := by
  induction hooks using List.reverseRecOn with
  | nil => simp [lastStretch, stretches]
  | append_singleton past hook ih =>
    by_cases init : hook = .phase .init
    · rw [init, lastStretch_init]
      exact Nat.zero_le _
    · rw [lastStretch_concat init, List.count_append]
      exact Nat.add_le_add_right ih _

/-- Not more beats are due than there were updates, as a stretch has at most one for each of its own. -/
theorem due_le (every : Nat) (hooks : List Hook) : due every hooks ≤ hooks.count (.phase .update) := by
  induction hooks using List.reverseRecOn with
  | nil => simp [due, stretches]
  | append_singleton past hook ih =>
    rw [due_concat, List.count_append]
    split
    · rename_i completes
      obtain ⟨rfl, -⟩ := completes
      simpa using ih
    · exact Nat.le_add_right_of_le ih

/-- A heartbeat has counted what has happened to it. -/
structure Counts (every : Nat) (past : List Hook) (h : Heartbeat) : Prop where
  period : h.period.toNat = every
  frames : h.frames.toNat = lastStretch past
  beats : h.beats.toNat = due every past

/-- As long as the counter does not come round. -/
theorem toNat_succ_counter {counter : UInt64} (room : counter.toNat + 1 < 2 ^ 64) :
    (counter + 1).toNat = counter.toNat + 1 := by
  rw [UInt64.toNat_add]
  exact Nat.mod_eq_of_lt room

theorem Counts.init (counts : Counts every past h) : Counts every (past ++ [.phase .init]) h.onInit.1 := by
  refine ⟨counts.period, (lastStretch_init past).symm, ?_⟩
  rw [due_concat, if_neg (by simp [Completes])]
  exact counts.beats

/-- Updates that fit into a word leave room in both counters. -/
theorem Counts.frames_succ (counts : Counts every past h) (room : past.count (.phase .update) + 1 < 2 ^ 64) :
    (h.frames + 1).toNat = lastStretch (past ++ [.phase .update]) := by
  have bound := lastStretch_le past
  rw [lastStretch_update, ← counts.frames]
  refine toNat_succ_counter ?_
  rw [counts.frames]
  omega

theorem Counts.completes_iff (counts : Counts every past h) (room : past.count (.phase .update) + 1 < 2 ^ 64) :
    (h.frames + 1) % h.period = 0 ↔ Completes every past (.phase .update) := by
  rw [← UInt64.toNat_inj, UInt64.toNat_mod, counts.frames_succ room, counts.period, Completes, and_iff_right rfl]
  exact (Nat.dvd_iff_mod_eq_zero).symm

/-- At the end of a period the next beat is due. -/
theorem Counts.beats_succ (counts : Counts every past h) (room : past.count (.phase .update) + 1 < 2 ^ 64)
    (completes : Completes every past (.phase .update)) :
    (h.beats + 1).toNat = due every (past ++ [.phase .update]) := by
  have bound := due_le every past
  rw [due_concat, if_pos completes, ← counts.beats]
  refine toNat_succ_counter ?_
  rw [counts.beats]
  omega

/-- An update counts one frame, and at the end of a period it counts and writes one beat. -/
theorem Counts.update (counts : Counts every past h) (room : past.count (.phase .update) + 1 < 2 ^ 64) :
    Counts every (past ++ [.phase .update]) h.onUpdate.1 ∧ h.onUpdate.2 =
      if Completes every past (.phase .update) then [beat (due every (past ++ [.phase .update]))] else [] := by
  have frames := counts.frames_succ room
  by_cases completes : Completes every past (.phase .update)
  · have beats := counts.beats_succ room completes
    rw [onUpdate, if_pos ((counts.completes_iff room).mpr completes), if_pos completes, ← beats]
    exact ⟨⟨counts.period, frames, beats⟩, rfl⟩
  · have beats : h.beats.toNat = due every (past ++ [.phase .update]) := by
      rw [due_concat, if_neg completes]
      exact counts.beats
    rw [onUpdate, if_neg (mt (counts.completes_iff room).mp completes), if_neg completes]
    exact ⟨⟨counts.period, frames, beats⟩, rfl⟩

/-- Hooks other than initialisations and updates count nothing. -/
theorem Counts.idle (counts : Counts every past h) (calm : hook ≠ .phase .init) (still : hook ≠ .phase .update) :
    Counts every (past ++ [hook]) (h.step hook).1 := by
  have frames : lastStretch (past ++ [hook]) = lastStretch past := by
    rw [lastStretch_concat calm, count_of_ne still, Nat.add_zero]
  have beats : due every (past ++ [hook]) = due every past := by
    rw [due_concat, if_neg (by simp [Completes, still]), Nat.add_zero]
  have same : (h.step hook).1 = { h with attached := (h.step hook).1.attached } := by
    cases hook with
    | attach => rfl
    | phase phase =>
      cases phase with
      | init => exact absurd rfl calm
      | update => exact absurd rfl still
      | postInit | preUpdate | postUpdate | release | postRelease => rfl
  rw [same]
  exact ⟨counts.period, counts.frames.trans frames.symm, counts.beats.trans beats.symm⟩

theorem isBeat_beat (number : Nat) : isBeat (beat number) := by
  rw [isBeat, beat, String.toList_append]
  exact List.isPrefixOf_iff_prefix.mpr (List.prefix_append _ _)

/-- The other records begin otherwise. -/
theorem filter_isBeat_of_ne_update (still : hook ≠ .phase .update) (h : Heartbeat) :
    (h.step hook).2.filter isBeat = [] := by
  cases hook with
  | attach => rfl
  | phase phase =>
    cases phase with
    | update => exact absurd rfl still
    | postInit | preUpdate | postUpdate => rfl
    | init => simp [step, onInit, isBeat]
    | release => simp [step, onRelease, isBeat]
    | postRelease => simp [step, onPostRelease, isBeat]

/-- The step lemma: after any hook the counts are those of the past with it, and a beat is written where one is due.
-/
theorem Counts.step (counts : Counts every past h) (room : (past ++ [hook]).count (.phase .update) < 2 ^ 64) :
    Counts every (past ++ [hook]) (h.step hook).1 ∧ (h.step hook).2.filter isBeat =
      if Completes every past hook then [beat (due every (past ++ [hook]))] else [] := by
  by_cases update : hook = .phase .update
  · subst update
    obtain ⟨counted, log⟩ := counts.update (by simpa using room)
    refine ⟨counted, ?_⟩
    rw [Heartbeat.step, log]
    split <;> simp [isBeat_beat]
  · rw [filter_isBeat_of_ne_update update, if_neg (by simp [Completes, update])]
    refine ⟨?_, rfl⟩
    by_cases init : hook = .phase .init
    · subst init
      exact counts.init
    · exact counts.idle init update

theorem after_concat (h : Heartbeat) (past : List Hook) (hook : Hook) :
    h.after (past ++ [hook]) = ((h.after past).step hook).1 := by
  rw [after, after, List.foldl_append]
  rfl

theorem written_concat (h : Heartbeat) (past : List Hook) (hook : Hook) :
    h.written (past ++ [hook]) = h.written past ++ ((h.after past).step hook).2 := by
  induction past generalizing h with
  | nil => simp [written, after]
  | cons first past ih => simp [written, after, ih]

/-- No period is zero. -/
theorem toNat_period_ofPeriod (period : UInt64) : (ofPeriod period).period.toNat = max 1 period.toNat := by
  rw [ofPeriod]
  split
  · rename_i zero
    subst zero
    rfl
  · rename_i other
    have positive : 0 < period.toNat := Nat.pos_of_ne_zero fun zero => other (UInt64.toNat_inj.mp zero)
    exact (Nat.max_eq_right positive).symm

theorem counts_ofPeriod (period : UInt64) : Counts (max 1 period.toNat) [] (ofPeriod period) :=
  ⟨toNat_period_ofPeriod period, by simp [lastStretch, stretches, ofPeriod], by simp [due, stretches, ofPeriod]⟩

/-- The run lemma, by induction on the hooks from the last one back. -/
theorem Counts.run (counts : Counts every [] h) (few : hooks.count (.phase .update) < 2 ^ 64) :
    Counts every hooks (h.after hooks) ∧
      (h.written hooks).filter isBeat = (List.range' 1 (due every hooks)).map beat := by
  induction hooks using List.reverseRecOn with
  | nil => exact ⟨counts, by simp [written, due, stretches]⟩
  | append_singleton past hook ih =>
    have fewer := Nat.lt_of_le_of_lt ((List.sublist_append_left past [hook]).count_le _) few
    obtain ⟨counted, numbered⟩ := ih fewer
    obtain ⟨counted, log⟩ := counted.step few
    rw [after_concat, written_concat, List.filter_append, numbered, log]
    refine ⟨counted, ?_⟩
    by_cases completes : Completes every past hook
    · rw [if_pos completes, due_concat, if_pos completes, List.range'_1_concat, Nat.add_comm 1]
      simp
    · rw [if_neg completes, due_concat, if_neg completes]
      simp

/-- What a heartbeat counts and writes, whatever it hears: frames since the last initialisation, one beat for each
whole
period of each stretch between initialisations, and the beats numbered in one row, each where its period ends. -/
theorem beats_accounted (period : UInt64) (hooks : List Hook) (few : hooks.count (.phase .update) < 2 ^ 64) :
    let every := max 1 period.toNat
    let start := ofPeriod period
    (start.after hooks).beats.toNat = ((stretches hooks).map (· / every)).sum ∧
      (stretches hooks).getLast? = some (start.after hooks).frames.toNat ∧
      (start.written hooks).filter isBeat = (List.range' 1 (start.after hooks).beats.toNat).map beat ∧
      ∀ past hook later, hooks = past ++ hook :: later → ∀ holder,
        let h := start.after past
        let reply := Manager.hook hook h holder
        h.period ≠ 0 ∧ reply.manager = start.after (past ++ [hook]) ∧
          reply.log.filter isBeat = if Completes every past hook then [beat reply.manager.beats.toNat] else [] := by
  intro every start
  obtain ⟨counted, numbered⟩ := (counts_ofPeriod period).run few
  refine ⟨counted.beats, ?_, ?_, ?_⟩
  · rw [counted.frames, lastStretch, List.getLast?_eq_some_getLast (stretches_ne_nil hooks)]
  · rw [numbered, counted.beats]
  · rintro past hook later rfl holder h reply
    have within : past ++ [hook] <+: past ++ hook :: later := ⟨later, by simp⟩
    have here := Nat.lt_of_le_of_lt (within.sublist.count_le _) few
    have before := Nat.lt_of_le_of_lt ((List.sublist_append_left past [hook]).count_le _) here
    obtain ⟨counted, -⟩ := (counts_ofPeriod period).run before
    obtain ⟨next, log⟩ := counted.step here
    refine ⟨fun zero => ?_, (after_concat start past hook).symm, ?_⟩
    · have period := counted.period
      rw [zero, UInt64.toNat_zero] at period
      omega
    · have beats : reply.manager.beats.toNat = due every (past ++ [hook]) := next.beats
      rw [beats]
      exact log

/-- Two stretches of three updates have a whole period of two each, and what is left of them makes no third. -/
theorem beats_accounted_again :
    let holder : Holder := { exeDir := ⟨[]⟩, pluginDir := ⟨[]⟩, logger := .off }
    let updates := List.replicate 3 (.phase .update)
    let past : List Hook := updates ++ [.phase .init, .phase .update]
    let hooks : List Hook := past ++ .phase .update :: [.phase .update]
    let h := (ofPeriod 2).after hooks
    hooks.count (.phase .update) < 2 ^ 64 ∧ h.beats.toNat = 2 ∧ h.frames.toNat = 3 ∧
      ((ofPeriod 2).written hooks).filter isBeat = [beat 1, beat 2] ∧
      (Manager.hook (.phase .update) ((ofPeriod 2).after past) holder).log.filter isBeat = [beat 2] := by
  intro holder updates past hooks h
  have few : hooks.count (.phase .update) < 2 ^ 64 := by decide
  have lengths : stretches hooks = [3, 3] := by decide
  have completes : Completes (max 1 (2 : UInt64).toNat) past (.phase .update) := by decide
  obtain ⟨beats, frames, numbered, each⟩ := beats_accounted 2 hooks few
  rw [lengths] at beats frames
  have two : h.beats.toNat = 2 := beats
  rw [two] at numbered
  obtain ⟨-, -, log⟩ := each past (.phase .update) [.phase .update] rfl holder
  have second : (Manager.hook (.phase .update) ((ofPeriod 2).after past) holder).manager.beats.toNat = 2 := by decide
  rw [if_pos completes, second] at log
  exact ⟨few, two, (Option.some.inj frames).symm, numbered, log⟩

end Heartbeat

end PluginHost
