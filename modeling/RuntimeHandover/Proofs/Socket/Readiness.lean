import Mathlib
import RuntimeHandover.Proofs.Act
import RuntimeHandover.Rehearsal.World
import RuntimeHandover.Settings.Basic

/-! What a wait for a socket is made of, and how it ends. The socket may come and go, and the
clock may move on at any moment. With pauses of no length on a clock that stands still a wait
need not end, so what is shown of its end is shown of every number of tries that decides it. -/
namespace RuntimeHandover.Socket
open Bootstrap Files Text

inductive Moment where
  | tried (connected : Bool)
  | read (time : Nat)
  | paused (pause : Nat)
  deriving DecidableEq, Repr

def triesIn (moments : List Moment) : List Bool :=
  moments.filterMap fun
    | .tried connected => some connected
    | _ => none

section counting

variable (moments : List Moment)

@[simp] theorem triesIn_tried (connected : Bool) :
    triesIn (.tried connected :: moments) = connected :: triesIn moments := rfl

@[simp] theorem triesIn_read (time : Nat) : triesIn (.read time :: moments) = triesIn moments := rfl

@[simp] theorem triesIn_paused (pause : Nat) :
    triesIn (.paused pause :: moments) = triesIn moments := rfl

end counting

abbrev Timed (σ : Type) := σ × List Moment

variable {σ : Type}

def Watch.noted (watch : Watch σ) : Watch (Timed σ) where
  probe := fun world =>
    let (connected, after) := watch.probe world.1
    (connected, after, world.2 ++ [.tried connected])
  now := fun world =>
    let (time, after) := watch.now world.1
    (time, after, world.2 ++ [.read time])
  sleep pause := fun world =>
    let ((), after) := watch.sleep pause world.1
    ((), after, world.2 ++ [.paused pause])

/-- The clock of a watch never goes back, and a pause lasts at least as long as asked for. -/
structure Steady (watch : Watch σ) (time : σ → Nat) : Prop where
  probe (s : σ) : time s ≤ time (watch.probe s).2
  now (s : σ) : time s ≤ (watch.now s).1 ∧ (watch.now s).1 ≤ time (watch.now s).2
  sleep (pause : Nat) (s : σ) : time s + pause ≤ time (watch.sleep pause s).2

private theorem Steady.noted {watch : Watch σ} {time : σ → Nat} (steady : Steady watch time) :
    Steady watch.noted fun world => time world.1 where
  probe world := steady.probe world.1
  now world := steady.now world.1
  sleep pause world := steady.sleep pause world.1

section rounds

variable {watch : Watch σ} {deadline interval allowed : Nat} {s : σ}

/-- One try, and what it leads to. -/
private theorem poll_step (watch : Watch σ) (deadline interval allowed : Nat) (s : σ) :
    poll watch deadline interval (allowed + 1) s =
      let tried := watch.probe s
      let seen := watch.now tried.2
      if tried.1 = true then (some true, tried.2)
      else if deadline ≤ seen.1 then (some false, seen.2)
      else poll watch deadline interval allowed
        (watch.sleep (min interval (deadline - seen.1)) seen.2).2 := by
  rw [poll]
  refine (bind_of_ran (Prod.ext rfl rfl) _).trans ?_
  dsimp only
  split
  · rfl
  · refine (bind_of_ran (Prod.ext rfl rfl) _).trans ?_
    split
    · rfl
    · rfl

/-- What is done up to the end: a try that fails before the deadline is followed by a pause. -/
inductive Rounds (deadline interval : Nat) : Bool → List Moment → Prop
  | connected : Rounds deadline interval true [.tried true]
  | late {time : Nat} (passed : deadline ≤ time) :
      Rounds deadline interval false [.tried false, .read time]
  | again {time : Nat} (early : time < deadline) {ready : Bool} {later : List Moment}
      (rest : Rounds deadline interval ready later) :
      Rounds deadline interval ready
        (.tried false :: .read time :: .paused (min interval (deadline - time)) :: later)

private theorem poll_rounds {log moments : List Moment} {ready : Bool} {after : σ}
    (decided : poll watch.noted deadline interval allowed (s, log) = (some ready, after, moments)) :
    ∃ more, moments = log ++ more ∧ Rounds deadline interval ready more ∧
      (triesIn more).length ≤ allowed := by
  induction allowed generalizing s log with
  | zero => cases decided
  | succ allowed ih =>
    rw [poll_step] at decided
    rcases probed : watch.probe s with ⟨connected, tried⟩
    rcases seen : watch.now tried with ⟨time, looked⟩
    simp only [Watch.noted, probed, seen] at decided
    split at decided
    next yes =>
      obtain rfl : connected = true := yes
      cases decided
      exact ⟨[.tried true], rfl, .connected, Nat.succ_pos _⟩
    next no =>
      obtain rfl := Bool.eq_false_iff.mpr no
      split at decided
      next passed =>
        cases decided
        exact ⟨[.tried false, .read time], List.append_assoc .., .late passed, Nat.succ_pos _⟩
      next early =>
        obtain ⟨more, rfl, rounds, few⟩ := ih decided
        refine ⟨_, ?_, .again (Nat.not_le.mp early) rounds, Nat.succ_le_succ few⟩
        simp

/-- Taking notes changes nothing else. -/
private theorem poll_unnoted (log : List Moment) :
    ∃ moments, poll watch.noted deadline interval allowed (s, log) =
      ((poll watch deadline interval allowed s).1,
        (poll watch deadline interval allowed s).2, moments) := by
  induction allowed generalizing s log with
  | zero => exact ⟨log, rfl⟩
  | succ allowed ih =>
    rw [poll_step, poll_step]
    change ∃ moments, (if (watch.probe s).1 = true then _ else if deadline ≤ _ then _ else _) = _
    dsimp only
    split
    · exact ⟨_, rfl⟩
    · change ∃ moments, (if deadline ≤ (watch.now (watch.probe s).2).1 then _ else _) = _
      split
      · exact ⟨_, rfl⟩
      · exact ih _

/-- More tries than were needed change nothing. -/
private theorem poll_mono {ready : Bool} {after : σ} {more : Nat} (enough : allowed ≤ more)
    (decided : poll watch deadline interval allowed s = (some ready, after)) :
    poll watch deadline interval more s = (some ready, after) := by
  induction allowed generalizing s more with
  | zero => cases decided
  | succ allowed ih =>
    obtain ⟨more, rfl⟩ : ∃ less, more = less + 1 := Nat.exists_eq_add_one.mpr (by omega)
    rw [poll_step] at decided ⊢
    dsimp only at decided ⊢
    split at decided
    next yes => rwa [if_pos yes]
    next no =>
      rw [if_neg no]
      split at decided
      next passed => rwa [if_pos passed]
      next early =>
        rw [if_neg early]
        exact ih (Nat.le_of_succ_le_succ enough) decided

/-- A loop ends when each of its pauses moves the clock on by some step or to the deadline, and
that many steps reach the deadline. -/
private theorem poll_decides {time : σ → Nat} (steady : Steady watch time) (step : Nat)
    (strides : ∀ s now, now ≤ time s → now < deadline →
      min deadline (now + step) ≤ time (watch.sleep (min interval (deadline - now)) s).2)
    (reached : deadline ≤ time s + allowed * step) :
    ∃ ready, (poll watch deadline interval (allowed + 1) s).1 = some ready := by
  induction allowed generalizing s with
  | zero =>
    rw [poll_step]
    dsimp only
    split
    · exact ⟨true, rfl⟩
    · have tried := steady.probe s
      have seen := (steady.now (watch.probe s).2).1
      rw [if_pos (by omega)]
      exact ⟨false, rfl⟩
  | succ allowed ih =>
    rw [poll_step]
    dsimp only
    split
    · exact ⟨true, rfl⟩
    · split
      · exact ⟨false, rfl⟩
      next early =>
        have tried := steady.probe s
        have seen := steady.now (watch.probe s).2
        have moved := strides _ _ seen.2 (Nat.not_le.mp early)
        apply ih
        rw [Nat.succ_mul] at reached
        omega

private theorem poll_mostTries {time : σ → Nat} (steady : Steady watch time) (readiness : Readiness)
    (moves : 0 < readiness.pollInterval ∨ ∀ there, time there < time (watch.sleep 0 there).2)
    (reached : deadline ≤ time s + readiness.timeout) :
    ∃ ready,
      (poll watch deadline readiness.pollInterval (mostTries readiness) s).1 = some ready := by
  unfold mostTries
  split
  next none_asked =>
    refine poll_decides steady 1 ?_ (by omega)
    intro there now before early
    have later := (moves.resolve_left (by omega)) there
    rw [none_asked, Nat.zero_min]
    omega
  next asked =>
    refine poll_decides steady readiness.pollInterval ?_ ?_
    · intro there now before early
      have later := steady.sleep (min readiness.pollInterval (deadline - now)) there
      omega
    · have whole := Nat.div_add_mod (readiness.timeout + readiness.pollInterval - 1)
        readiness.pollInterval
      have rest := Nat.mod_lt (readiness.timeout + readiness.pollInterval - 1)
        (Nat.pos_of_ne_zero asked)
      rw [Nat.mul_comm] at whole
      omega

end rounds

namespace Rounds

variable {deadline interval : Nat} {ready : Bool} {moments : List Moment}

private theorem starts (rounds : Rounds deadline interval ready moments) :
    ∃ connected rest, moments = .tried connected :: rest := by
  cases rounds with
  | connected => exact ⟨true, _, rfl⟩
  | late passed => exact ⟨false, _, rfl⟩
  | again early rest => exact ⟨false, _, rfl⟩

private theorem ready_iff (rounds : Rounds deadline interval ready moments) :
    ready = true ↔ true ∈ triesIn moments := by
  induction rounds with
  | connected => simp
  | late passed => simp [triesIn]
  | again early rest ih => simpa using ih

/-- A try that connects is the last, and the only one that does. -/
private theorem ready_last (rounds : Rounds deadline interval ready moments) (yes : ready = true) :
    ∃ earlier, moments = earlier ++ [.tried true] ∧ true ∉ triesIn earlier := by
  induction rounds with
  | connected => exact ⟨[], rfl, by simp [triesIn]⟩
  | late passed => cases yes
  | @again time early ready later rest ih =>
    obtain ⟨earlier, rfl, silent⟩ := ih yes
    exact ⟨.tried false :: .read time :: .paused _ :: earlier, rfl, by simpa using silent⟩

private theorem late_last (rounds : Rounds deadline interval ready moments) (no : ready = false) :
    ∃ earlier time, moments = earlier ++ [.tried false, .read time] ∧ deadline ≤ time := by
  induction rounds with
  | connected => cases no
  | @late time passed => exact ⟨[], time, rfl, passed⟩
  | @again time early ready later rest ih =>
    obtain ⟨earlier, last, rfl, passed⟩ := ih no
    exact ⟨.tried false :: .read time :: .paused _ :: earlier, last, rfl, passed⟩

/-- A pause comes after a look at a clock before the deadline, reaches no further than the
deadline, and is followed by a try. -/
private theorem pauses (rounds : Rounds deadline interval ready moments)
    {before after : List Moment}
    {pause : Nat} (there : moments = before ++ .paused pause :: after) :
    pause ≤ interval ∧
      (∃ earlier time, before = earlier ++ [.tried false, .read time] ∧ time < deadline ∧
        time + pause ≤ deadline) ∧
      ∃ connected rest, after = .tried connected :: rest := by
  induction rounds generalizing before with
  | connected => rcases before with _ | ⟨_, _ | _⟩ <;> cases there
  | late passed => rcases before with _ | ⟨_, _ | ⟨_, _ | _⟩⟩ <;> cases there
  | @again time early ready later rest ih =>
    rcases before with _ | ⟨_, _ | ⟨_, _ | ⟨_, before⟩⟩⟩
    · cases there
    · cases there
    · cases there
      exact ⟨Nat.min_le_left .., ⟨[], time, rfl, early, by omega⟩, rest.starts⟩
    · cases there
      obtain ⟨short, ⟨earlier, last, rfl, looked⟩, onward⟩ := ih rfl
      exact ⟨short, ⟨.tried false :: .read time :: .paused _ :: earlier, last, rfl, looked⟩, onward⟩

end Rounds

structure Waited (path : Path) (readiness : Readiness) (start : Nat) (result : Except Failure Unit)
    (moments : List Moment) : Prop where
  tried : 1 ≤ (triesIn moments).length
  ready_iff : result = .ok () ↔ true ∈ triesIn moments
  ready_last (ready : result = .ok ()) :
    ∃ earlier, moments = earlier ++ [.tried true] ∧ true ∉ triesIn earlier
  late_iff : result = .error (notReady path readiness) ↔
    ∀ connected ∈ triesIn moments, connected = false
  late_last (late : result = .error (notReady path readiness)) :
    ∃ earlier time, moments = earlier ++ [.tried false, .read time] ∧
      start + readiness.timeout ≤ time
  pauses (before after : List Moment) (pause : Nat)
    (there : moments = before ++ .paused pause :: after) :
    pause ≤ readiness.pollInterval ∧
      (∃ earlier time, before = earlier ++ [.tried false, .read time] ∧
        time < start + readiness.timeout ∧ time + pause ≤ start + readiness.timeout) ∧
      ∃ connected rest, after = .tried connected :: rest

section waiting

variable (watch : Watch σ) (path : Path) (readiness : Readiness)

def verdict (ready : Bool) : Except Failure Unit :=
  if ready then .ok () else .error (notReady path readiness)

def looped (allowed : Nat) (s : σ) : Option Bool × σ :=
  poll watch ((watch.now s).1 + readiness.timeout) readiness.pollInterval allowed (watch.now s).2

def Concludes (s : σ) (result : Except Failure Unit) (moments : List Moment) : Prop :=
  ∃ allowed ready after,
    looped watch.noted readiness allowed (s, []) = (some ready, after, moments) ∧
    result = verdict path readiness ready

variable {watch path readiness} {s : σ} {result : Except Failure Unit} {moments : List Moment}

private theorem Concludes.unique {other : Except Failure Unit} {others : List Moment}
    (ends : Concludes watch path readiness s result moments)
    (otherwise : Concludes watch path readiness s other others) :
    result = other ∧ moments = others := by
  obtain ⟨allowed, ready, after, decided, rfl⟩ := ends
  obtain ⟨allowed', ready', after', decided', rfl⟩ := otherwise
  have one := poll_mono (Nat.le_max_left allowed allowed') decided
  have two := poll_mono (Nat.le_max_right allowed allowed') decided'
  have same := one.symm.trans two
  cases same
  exact ⟨rfl, rfl⟩

private theorem Rounds.course {start : Nat} {ready : Bool}
    (rounds : Rounds (start + readiness.timeout) readiness.pollInterval ready moments) :
    Waited path readiness start (verdict path readiness ready) (.read start :: moments) := by
  have isReady : verdict path readiness ready = .ok () ↔ ready = true := by
    cases ready with
    | true => simp [verdict]
    | false => simp [verdict]
  have isLate : verdict path readiness ready = .error (notReady path readiness) ↔
      ready = false := by
    cases ready with
    | true => simp [verdict]
    | false => simp [verdict]
  have told := rounds.ready_iff
  constructor
  case tried =>
    obtain ⟨connected, rest, rfl⟩ := rounds.starts
    exact Nat.succ_pos _
  case ready_iff => rwa [isReady]
  case ready_last =>
    intro ended
    obtain ⟨earlier, rfl, quiet⟩ := rounds.ready_last (isReady.mp ended)
    exact ⟨.read start :: earlier, rfl, quiet⟩
  case late_iff =>
    rw [isLate, ← Bool.not_eq_true, told, triesIn_read]
    constructor
    · intro silent connected there
      exact Bool.eq_false_iff.mpr fun yes => silent (yes ▸ there)
    · intro failed there
      cases failed true there
  case late_last =>
    intro ended
    obtain ⟨earlier, time, rfl, passed⟩ := rounds.late_last (isLate.mp ended)
    exact ⟨.read start :: earlier, time, rfl, passed⟩
  case pauses =>
    intro before after pause there
    cases before with
    | nil => cases there
    | cons first before =>
      rw [List.cons_append] at there
      obtain ⟨rfl, later⟩ := List.cons.inj there
      obtain ⟨short, ⟨earlier, time, rfl, looked⟩, onward⟩ := rounds.pauses later
      exact ⟨short, ⟨.read start :: earlier, time, rfl, looked⟩, onward⟩

private theorem rounds_of_looped {allowed : Nat} {ready : Bool} {after : σ}
    (decided : looped watch.noted readiness allowed (s, []) = (some ready, after, moments)) :
    ∃ more, moments = .read (watch.now s).1 :: more ∧
      Rounds ((watch.now s).1 + readiness.timeout) readiness.pollInterval ready more ∧
      (triesIn more).length ≤ allowed :=
  poll_rounds decided

private theorem Concludes.course (ends : Concludes watch path readiness s result moments) :
    Waited path readiness (watch.now s).1 result moments := by
  obtain ⟨allowed, ready, after, decided, rfl⟩ := ends
  obtain ⟨more, rfl, rounds, -⟩ := rounds_of_looped decided
  exact rounds.course

private theorem wait_run (watch : Watch σ) (path : Path) (readiness : Readiness) (s : σ) :
    (wait watch path readiness).run s =
      (verdict path readiness ((looped watch readiness (mostTries readiness) s).1 = some true),
        (looped watch readiness (mostTries readiness) s).2) := by
  unfold wait
  rw [Act.run_bind, Act.run_liftM]
  dsimp only
  rw [Act.run_bind, Act.run_liftM]
  change (if (looped watch readiness (mostTries readiness) s).1 = some true then pure ()
    else throw (notReady path readiness) : Act σ Unit).run
      (looped watch readiness (mostTries readiness) s).2 = _
  rcases looped watch readiness (mostTries readiness) s with ⟨decided, after⟩
  by_cases yes : decided = some true
  · simp [verdict, yes]
  · simp [verdict, yes]

private theorem wait_noted (watch : Watch σ) (path : Path) (readiness : Readiness) (s : σ) :
    (wait watch path readiness).run s =
      (((wait watch.noted path readiness).run (s, [])).1,
        ((wait watch.noted path readiness).run (s, [])).2.1) := by
  have some_notes : ∃ moments, looped watch.noted readiness (mostTries readiness) (s, []) =
      ((looped watch readiness (mostTries readiness) s).1,
        (looped watch readiness (mostTries readiness) s).2, moments) := poll_unnoted _
  obtain ⟨moments, same⟩ := some_notes
  rw [wait_run, wait_run, same]

private theorem wait_of_looped (path : Path) {ready : Bool} {after : Timed σ}
    (decided : looped watch.noted readiness (mostTries readiness) (s, []) = (some ready, after)) :
    (wait watch.noted path readiness).run (s, []) = (verdict path readiness ready, after) := by
  rw [wait_run, decided]
  simp

private theorem looped_decides {time : σ → Nat} (steady : Steady watch time)
    (moves : 0 < readiness.pollInterval ∨ ∀ there, time there < time (watch.sleep 0 there).2) :
    ∃ ready after moments,
      looped watch.noted readiness (mostTries readiness) (s, []) = (some ready, after, moments) := by
  have begun := (steady.now s).2
  have decided : ∃ ready,
      (looped watch.noted readiness (mostTries readiness) (s, [])).1 = some ready :=
    poll_mostTries steady.noted readiness (moves.imp_right fun moved there => moved there.1)
      (Nat.add_le_add_right begun _)
  obtain ⟨ready, decided⟩ := decided
  exact ⟨ready, _, _, Prod.ext decided rfl⟩

def clockRange : Nat := seconds 0x8000000000000000

/-- Every wait that ends goes like this: it tries at least once; it ends well exactly if a try
connects, which is then the last one; it ends with a timeout exactly if every try fails, and then
the clock was looked at after the last try and stood at the deadline or past it; each pause is no
longer than the interval, begins before the deadline and reaches no further, and a try comes after
it. A wait with an interval ends, after a bounded number of tries; so does one without, if pauses
move the clock on at all. No timeout from the settings leads past the range of a clock that
stands further from its end than the longest of them. -/
theorem wait_course {time : σ → Nat} (steady : Steady watch time) (path : Path)
    (readiness : Readiness) (s : σ) :
    let start := (watch.now s).1
    let waited := (wait watch.noted path readiness).run (s, [])
    (wait watch path readiness).run s = (waited.1, waited.2.1) ∧
    (∀ result moments, Concludes watch path readiness s result moments →
      Waited path readiness start result moments) ∧
    (0 < readiness.pollInterval ∨ (∀ there, time there < time (watch.sleep 0 there).2) →
      ∀ result moments, Concludes watch path readiness s result moments ↔
        result = waited.1 ∧ moments = waited.2.2) ∧
    (0 < readiness.pollInterval → (triesIn waited.2.2).length ≤
      (readiness.timeout + readiness.pollInterval - 1) / readiness.pollInterval + 1) ∧
    ∀ settings : Settings, settings.proxy.socketTimeoutMs < UInt64.size →
      settings.bootstrapOptions.readiness = readiness →
      start + milliseconds UInt64.size ≤ clockRange → start + readiness.timeout < clockRange := by
  intro start waited
  refine ⟨wait_noted watch path readiness s, fun result moments => Concludes.course, ?_, ?_, ?_⟩
  · intro moves result moments
    obtain ⟨ready, after, found, decided⟩ := looped_decides (s := s) steady moves
    have ran : waited = _ := wait_of_looped path decided
    rw [ran]
    constructor
    · intro ends
      exact ends.unique ⟨_, ready, after, decided, rfl⟩
    · rintro ⟨rfl, rfl⟩
      exact ⟨_, ready, after, decided, rfl⟩
  · intro asked
    obtain ⟨ready, after, found, decided⟩ := looped_decides (s := s) steady (.inl asked)
    have ran : waited = _ := wait_of_looped path decided
    obtain ⟨more, rfl, -, few⟩ := rounds_of_looped decided
    rw [mostTries, if_neg (by omega)] at few
    rw [ran]
    exact few
  · intro settings small same early
    subst same
    change start + milliseconds settings.proxy.socketTimeoutMs < clockRange
    simp only [milliseconds] at early ⊢
    omega

end waiting

section rehearsed
open Rehearsal

private theorem steady_rehearsed (path : Path) : Steady (World.watch path) World.clock where
  probe _ := Nat.le_refl _
  now _ := ⟨Nat.le_refl _, Nat.le_refl _⟩
  sleep pause world := Nat.add_le_add_left (Nat.le_max_left pause World.finestPause) world.clock

def flickering : World where
  disk := ⟨⟨[([bytesOf "s"], .socket false)]⟩, [], fun _ => []⟩
  later := [(milliseconds 7, .remove (.ofString "s")), (milliseconds 12, .listen (.ofString "s"))]
  docker := {name := "docker"}
  roster := ⟨[], fun _ => "", 0, [], fun _ _ => none⟩

def hasty : Settings := {proxy := {socketTimeoutMs := 18, socketPollIntervalMs := 5}}

theorem wait_course_flickering :
    let path := Path.ofString "s"
    let readiness := hasty.bootstrapOptions.readiness
    let waited := (wait (World.watch path).noted path readiness).run (flickering, [])
    Steady (World.watch path) World.clock ∧ 0 < readiness.pollInterval ∧ waited.1 = .ok () ∧
      triesIn waited.2.2 = [false, false, false, true] ∧
      Waited path readiness 0 waited.1 waited.2.2 ∧
      (triesIn waited.2.2).length ≤ 5 ∧ readiness.timeout < clockRange := by
  have steady := steady_rehearsed (.ofString "s")
  obtain ⟨-, course, ends, few, fits⟩ :=
    wait_course steady (.ofString "s") hasty.bootstrapOptions.readiness flickering
  have asked : 0 < hasty.bootstrapOptions.readiness.pollInterval := by decide
  refine ⟨steady, asked, by cbv, by cbv, ?_, few asked, ?_⟩
  · exact course _ _ ((ends (.inl asked) _ _).mpr ⟨rfl, rfl⟩)
  · have bound := fits hasty (by decide) rfl (by decide)
    rwa [show ((World.watch (.ofString "s")).now flickering).1 = 0 from rfl, Nat.zero_add] at bound

end rehearsed

end RuntimeHandover.Socket
