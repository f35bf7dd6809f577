import RuntimeHandover.Container.DockerCli
import RuntimeHandover.Container.Install
import RuntimeHandover.Proofs.Act
import RuntimeHandover.Proofs.Text.Utf8

/-! What an installation runs on the command line, in order, and how the answers decide where
it ends. The runs are noted by a program that passes each one on to the program itself. -/
namespace RuntimeHandover.Container
open Text

inductive Command where
  | version
  | list
  | remove (id : String)
  | pull
  | create (spec : Spec)
  | start (id : String)

namespace Command

def args : Command → List String
  | .version => ["version", "--format", "\x7b\x7b.Server.Version\x7d\x7d"]
  | .list => ["ps", "--all", "--quiet", "--no-trunc", "--filter", "label=criproxy"]
  | .remove id => ["rm", "--force", id]
  | .pull => ["pull", "busybox:1.26.2"]
  | .create spec => createArgs spec
  | .start id => ["start", id]

def kind : Command → FailureKind
  | .version => .engineUnreachable
  | .pull => .imagePull
  | _ => .container

def Useless : Command → List UInt8 → Prop
  | .pull, stdout => ∃ line ∈ streamLines stdout, Utf8.decode? line = none
  | .create _, stdout => trimmed stdout = ""
  | _, _ => False

end Command

structure Ran where
  command : Command
  answer : Except String Output

namespace Ran

def invocation (host : String) (ran : Ran) : List String × Except String Output :=
  (["--host", host] ++ ran.command.args, ran.answer)

def Stops (ran : Ran) : Prop :=
  match ran.answer with
  | .error _ => True
  | .ok output => output.exit ≠ 0 ∨ ran.command.Useless output.stdout

theorem fine {command : Command} {output : Output} (exit : output.exit = 0)
    (useful : ¬ command.Useless output.stdout) : ¬ Stops ⟨command, .ok output⟩ := by
  rintro (failed | useless)
  · exact failed exit
  · exact useful useless

def Tells (ids : List String) (made : String) : Ran → Prop
  | ⟨.list, .ok output⟩ => ids = listedIds output.stdout
  | ⟨.create _, .ok output⟩ => made = trimmed output.stdout
  | _ => True

end Ran

def plan (ids : List String) (spec : Spec) (made : String) : List Command :=
  [.version, .list] ++ ids.map .remove ++ [.pull, .create spec, .start made]

/-- A session is through with its plan, or ends at the first run that stops it. A container
that was made and does not start is removed, whatever becomes of that. -/
inductive Ends (plan : List Command) (made : String) : List Ran → Except Failure String → Prop
  | done {session : List Ran} (all : session.map Ran.command = plan)
      (clean : ∀ ran ∈ session, ¬ ran.Stops) :
      Ends plan made session (.ok made)
  | stopped (before : List Ran) {last : Ran} {next : Command} {later : List Command}
      {detail : String} (place : plan = before.map Ran.command ++ last.command :: next :: later)
      (clean : ∀ ran ∈ before, ¬ ran.Stops) (stops : last.Stops) :
      Ends plan made (before ++ [last]) (.error ⟨last.command.kind, detail⟩)
  | unstarted (before : List Ran) {answer cleanup : Except String Output} {detail : String}
      (place : plan = before.map Ran.command ++ [.start made])
      (clean : ∀ ran ∈ before, ¬ ran.Stops) (stops : Ran.Stops ⟨.start made, answer⟩) :
      Ends plan made (before ++ [⟨.start made, answer⟩, ⟨.remove made, cleanup⟩])
        (.error ⟨.container, detail⟩)

private theorem Ends.ok_iff {plan : List Command} {made : String} {session : List Ran}
    {result : Except Failure String} (ends : Ends plan made session result) :
    (∃ id, result = .ok id) ↔ ∀ ran ∈ session, ¬ ran.Stops := by
  cases ends with
  | done all clean => simpa using clean
  | stopped before place clean stops => simp [stops]
  | unstarted before place clean stops =>
    constructor
    · simp
    · intro clean
      exact absurd stops (clean _ (by simp))

abbrev Watched (σ : Type) := σ × List (List String × Except String Output)

variable {σ α β : Type}

def Program.watched (program : Program σ) : Program (Watched σ) where
  name := program.name
  run args := fun world =>
    let (answer, after) := program.run args world.1
    (answer, after, world.2 ++ [(args, answer)])

def unwatched (action : StateM σ α) : StateM (Watched σ) α := fun world =>
  let (a, after) := action world.1
  (a, after, world.2)

/-- The watched action does what the plain one does, and what the program was run with
meanwhile is a session that stands in the relation with its result. -/
def Spawns (host : String) (plain : Act σ α) (watched : Act (Watched σ) α)
    (relation : List Ran → Except Failure α → Prop) : Prop :=
  ∀ s, ∃ session, relation session (plain.run s).1 ∧ ∀ log,
    watched.run (s, log) =
      ((plain.run s).1, (plain.run s).2, log ++ session.map (Ran.invocation host))

namespace Spawns

variable {host : String}

private theorem imp {plain : Act σ α} {watched : Act (Watched σ) α}
    {relation weaker : List Ran → Except Failure α → Prop}
    (spawns : Spawns host plain watched relation)
    (weaken : ∀ session result, relation session result → weaker session result) :
    Spawns host plain watched weaker := by
  intro s
  obtain ⟨session, related, same⟩ := spawns s
  exact ⟨session, weaken _ _ related, same⟩

section ended

variable {relation : List Ran → Except Failure α → Prop}

private theorem ofExcept {result : Except Failure α} (holds : relation [] result) :
    Spawns host (σ := σ) (Act.ofExcept result) (Act.ofExcept result) relation := by
  intro s
  refine ⟨[], holds, ?_⟩
  simp

private theorem pure {a : α} (holds : relation [] (.ok a)) :
    Spawns host (σ := σ) (Pure.pure a) (Pure.pure a) relation :=
  ofExcept holds

private theorem throw {failure : Failure} (holds : relation [] (.error failure)) :
    Spawns host (σ := σ) (MonadExcept.throw failure) (MonadExcept.throw failure) relation :=
  ofExcept holds

end ended

private theorem aside (action : StateM σ α) :
    Spawns host (liftM action : Act σ α) (liftM (unwatched action))
    (fun session ended => session = [] ∧ ∃ there, ended = .ok (action there).1) := by
  intro s
  refine ⟨[], ⟨rfl, s, rfl⟩, ?_⟩
  intro log
  rw [List.map_nil, List.append_nil]
  rfl

private theorem outcome {plain : Act σ α} {watched : Act (Watched σ) α}
    {relation : List Ran → Except Failure α → Prop}
    (spawns : Spawns host plain watched relation) :
    Spawns host plain.outcome watched.outcome
      (fun session ended => ∃ result, relation session result ∧ ended = .ok result) := by
  intro s
  obtain ⟨session, related, same⟩ := spawns s
  refine ⟨session, ⟨_, related, rfl⟩, ?_⟩
  intro log
  rw [Act.run_outcome, Act.run_outcome, same]

private theorem restate {plain : Act σ α} {watched : Act (Watched σ) α}
    {relation : List Ran → Except Failure α → Prop}
    (spawns : Spawns host plain watched relation) (words : Failure → Failure) :
    Spawns host (plain.restate words) (watched.restate words)
      (fun session ended => ∃ result, relation session result ∧
        ended = result.mapError words) := by
  intro s
  obtain ⟨session, related, same⟩ := spawns s
  refine ⟨session, ⟨_, related, rfl⟩, ?_⟩
  intro log
  rw [Act.run_restate, Act.run_restate, same]

private theorem bind {first : Act σ α} {firstWatched : Act (Watched σ) α} {next : α → Act σ β}
    {nextWatched : α → Act (Watched σ) β} {before : List Ran → Except Failure α → Prop}
    {relation : List Ran → Except Failure β → Prop}
    (head : Spawns host first firstWatched before)
    (failed : ∀ session failure, before session (.error failure) →
      relation session (.error failure))
    (tail : ∀ a earlier, before earlier (.ok a) → Spawns host (next a) (nextWatched a)
      (fun session ended => relation (earlier ++ session) ended)) :
    Spawns host (first >>= next) (firstWatched >>= nextWatched) relation := by
  intro s
  obtain ⟨session, related, same⟩ := head s
  rcases ran : first.run s with ⟨failure | a, after⟩
  · rw [ran] at related same
    rw [Act.run_bind_error ran]
    exact ⟨session, failed _ _ related, fun log => Act.run_bind_error (same log)⟩
  · rw [ran] at related same
    rw [Act.run_bind_ok ran]
    obtain ⟨more, relatedOn, sameOn⟩ := tail a session related after
    refine ⟨session ++ more, relatedOn, ?_⟩
    intro log
    rw [Act.run_bind_ok (same log), sameOn, List.map_append, List.append_assoc]

private theorem run (program : Program σ) (command : Command) :
    Spawns host (liftM (program.run (["--host", host] ++ command.args)) : Act σ _)
      (liftM (program.watched.run (["--host", host] ++ command.args)))
      (fun session ended => ∃ answer, session = [⟨command, answer⟩] ∧ ended = .ok answer) := by
  intro s
  exact ⟨[⟨command, (program.run _ s).1⟩], ⟨_, rfl, rfl⟩, fun log => rfl⟩

end Spawns

section commands

private theorem streamFlaw?_isSome_iff (stdout : List UInt8) :
    (streamFlaw? stdout).isSome ↔ Command.Useless .pull stdout := by
  have flawed (line : List UInt8) : (Utf8.flaw? line).isSome ↔ Utf8.decode? line = none := by
    rw [← Option.ne_none_iff_isSome, ne_eq, Utf8.flaw?_eq_none_iff, Option.not_isSome_iff_eq_none]
  simp only [streamFlaw?, List.findSome?_isSome_iff, flawed, Command.Useless]

inductive Once (command : Command) (value : Output → α) : List Ran → Except Failure α → Prop
  | answered {output : Output} (fine : ¬ Ran.Stops ⟨command, .ok output⟩) :
      Once command value [⟨command, .ok output⟩] (.ok (value output))
  | stopped {answer : Except String Output} {detail : String}
      (stops : Ran.Stops ⟨command, answer⟩) :
      Once command value [⟨command, answer⟩] (.error ⟨command.kind, detail⟩)

variable {host : String} {program : Program σ}

/-- A failed run's failure is of its kind before and after it is put in other words. -/
private theorem Spawns.restated {plain : Act σ α} {watched : Act (Watched σ) α} {command : Command}
    {value : Output → α} (once : Spawns host plain watched (Once command value))
    {words : Failure → Failure}
    (kept : ∀ failure, failure.kind = command.kind → words failure = failure) :
    Spawns host (plain.restate words) (watched.restate words) (Once command value) := by
  refine (once.restate words).imp ?_
  rintro session ended ⟨result, ran, rfl⟩
  cases ran with
  | answered fine => exact .answered fine
  | @stopped answer detail stops =>
    change Once command value _ (.error (words ⟨command.kind, detail⟩))
    rw [kept ⟨command.kind, detail⟩ rfl]
    exact .stopped stops

inductive Asked (command : Command) : List Ran → Except Failure Output → Prop
  | succeeded {output : Output} (exit : output.exit = 0) :
      Asked command [⟨command, .ok output⟩] (.ok output)
  | failed {answer : Except String Output} {detail : String}
      (stops : Ran.Stops ⟨command, answer⟩) :
      Asked command [⟨command, answer⟩] (.error ⟨command.kind, detail⟩)

private theorem spawns_demand (command : Command) (unspawned failed : String) :
    Spawns host (DockerCli.demand program host command.args command.kind unspawned failed)
      (DockerCli.demand program.watched host command.args command.kind unspawned failed)
      (Asked command) := by
  refine (Spawns.run program command).bind ?_ ?_
  · rintro session failure ⟨answer, -, same⟩
    cases same
  · rintro answer earlier ⟨_, rfl, same⟩
    cases same
    cases answer with
    | error reason =>
      exact Spawns.throw (.failed trivial)
    | ok output =>
      by_cases exit : output.exit = 0
      · simp only [Output.succeeded, exit, decide_true, if_true]
        exact Spawns.pure (.succeeded exit)
      · simp only [Output.succeeded, exit, decide_false]
        exact Spawns.throw (.failed (.inl exit))

/-- What is made of a successful run without another one. -/
private theorem once_of_demand (command : Command) {value : Output → α} {judge : Output → Act σ α}
    {judgeWatched : Output → Act (Watched σ) α} (unspawned failed : String)
    (judged : ∀ output, output.exit = 0 → Spawns host (judge output) (judgeWatched output)
      fun session ended => session = [] ∧ Once command value [⟨command, .ok output⟩] ended) :
    Spawns host
      (DockerCli.demand program host command.args command.kind unspawned failed >>= judge)
      (DockerCli.demand program.watched host command.args command.kind unspawned failed >>=
        judgeWatched)
      (Once command value) := by
  refine (spawns_demand command unspawned failed).bind ?_ ?_
  · intro session failure asked
    cases asked with
    | failed stops => exact .stopped stops
  · intro output earlier asked
    cases asked with
    | succeeded exit =>
      refine (judged output exit).imp ?_
      rintro session ended ⟨rfl, once⟩
      exact once

/-- A command that any answer will do for is done when the program succeeded. -/
private theorem once_demand (command : Command) (value : Output → α)
    (anyAnswer : ∀ stdout, ¬ command.Useless stdout) (unspawned failed : String) :
    Spawns host
      (DockerCli.demand program host command.args command.kind unspawned failed >>=
        fun output => pure (value output))
      (DockerCli.demand program.watched host command.args command.kind unspawned failed >>=
        fun output => pure (value output))
      (Once command value) := by
  refine once_of_demand command unspawned failed ?_
  intro output exit
  exact Spawns.pure ⟨rfl, .answered (Ran.fine exit (anyAnswer _))⟩

private theorem once_create (spec : Spec) :
    Spawns host (DockerCli.create program host spec) (DockerCli.create program.watched host spec)
      (Once (.create spec) fun output => trimmed output.stdout) := by
  refine once_of_demand (.create spec) _ _ ?_
  intro output exit
  by_cases nameless : trimmed output.stdout = ""
  · simp only [nameless, if_true]
    exact Spawns.throw ⟨rfl, .stopped (.inr nameless)⟩
  · simp only [nameless, if_false]
    exact Spawns.pure ⟨rfl, .answered (Ran.fine exit nameless)⟩

private theorem once_pull :
    Spawns host (DockerCli.pull program host proxyImage)
      (DockerCli.pull program.watched host proxyImage) (Once .pull fun _ => ()) := by
  refine (Spawns.run program .pull).bind ?_ ?_
  · rintro session failure ⟨answer, -, same⟩
    cases same
  · rintro answer earlier ⟨_, rfl, same⟩
    cases same
    cases answer with
    | error reason =>
      exact Spawns.throw (.stopped trivial)
    | ok output =>
      dsimp only
      cases read : streamFlaw? output.stdout with
      | some flaw =>
        have useless := (streamFlaw?_isSome_iff output.stdout).mp (read ▸ rfl)
        exact Spawns.throw (.stopped (.inr useless))
      | none =>
        have useful : ¬ Command.Useless .pull output.stdout := by
          simp [← streamFlaw?_isSome_iff, read]
        by_cases exit : output.exit = 0
        · simp only [Output.succeeded, exit, decide_true, if_true]
          exact Spawns.pure (.answered (Ran.fine exit useful))
        · simp only [Output.succeeded, exit, decide_false]
          exact Spawns.throw (.stopped (.inl exit))

inductive Starts (made : String) : List Ran → Except Failure String → Prop
  | started {output : Output} (fine : ¬ Ran.Stops ⟨.start made, .ok output⟩) :
      Starts made [⟨.start made, .ok output⟩] (.ok made)
  | removed {answer cleanup : Except String Output} {detail : String}
      (stops : Ran.Stops ⟨.start made, answer⟩) :
      Starts made [⟨.start made, answer⟩, ⟨.remove made, cleanup⟩] (.error ⟨.container, detail⟩)

private theorem starts_or_removes (made : String) :
    Spawns host (startOrRemove (DockerCli.engine program host) made)
      (startOrRemove (DockerCli.engine program.watched host) made) (Starts made) := by
  have start : Spawns host (DockerCli.start program host made)
      (DockerCli.start program.watched host made) (Once (.start made) fun _ => ()) :=
    once_demand (.start made) _ (fun _ useless => useless) _ _
  have remove : Spawns host (DockerCli.remove program host made)
      (DockerCli.remove program.watched host made) (Once (.remove made) fun _ => ()) :=
    once_demand (.remove made) _ (fun _ useless => useless) _ _
  refine start.outcome.bind ?_ ?_
  · rintro session failure ⟨result, -, same⟩
    cases same
  · rintro result earlier ⟨_, ran, same⟩
    cases same
    cases ran with
    | answered fine =>
      exact Spawns.pure (.started fine)
    | stopped stops =>
      refine remove.outcome.bind ?_ ?_
      · rintro session failure ⟨result, -, same⟩
        cases same
      · rintro result cleanup ⟨_, ran, -⟩
        cases ran with
        | answered _ => exact Spawns.throw (.removed stops)
        | stopped _ => exact Spawns.throw (.removed stops)

end commands

private theorem Ends.after {before session : List Ran} {plan : List Command} {made : String}
    {result : Except Failure String} (clean : ∀ ran ∈ before, ¬ ran.Stops)
    (ends : Ends plan made session result) :
    Ends (before.map Ran.command ++ plan) made (before ++ session) result := by
  have cleanly {more : List Ran} (rest : ∀ ran ∈ more, ¬ ran.Stops) :
      ∀ ran ∈ before ++ more, ¬ ran.Stops :=
    List.forall_mem_append.mpr ⟨clean, rest⟩
  cases ends with
  | done all rest => exact .done (by rw [List.map_append, all]) (cleanly rest)
  | stopped earlier place rest stops =>
    rw [← List.append_assoc]
    exact .stopped _ (by rw [place, List.map_append, List.append_assoc]) (cleanly rest) stops
  | unstarted earlier place rest stops =>
    rw [← List.append_assoc]
    exact .unstarted _ (by rw [place, List.map_append, List.append_assoc]) (cleanly rest) stops

/-- A plan is followed as far as the session comes. The plan may name what a listing gave, what
the clock said in some state and the container that was made. -/
def Follows (ids : List String) (plan : σ → String → List Command) (session : List Ran)
    (result : Except Failure String) : Prop :=
  ∃ there made, (∀ ran ∈ session, ¬ ran.Stops → ran.Tells ids made) ∧
    Ends (plan there made) made session result

namespace Follows

variable {ids : List String}

private theorem after {plan : σ → String → List Command} (before : List Ran) {session : List Ran}
    {result : Except Failure String} (clean : ∀ ran ∈ before, ¬ ran.Stops)
    (told : ∀ ran ∈ before, ∀ made, ran.Tells ids made)
    (follows : Follows ids plan session result) :
    Follows ids (fun there made => before.map Ran.command ++ plan there made) (before ++ session)
      result := by
  obtain ⟨there, made, tells, ends⟩ := follows
  refine ⟨there, made, List.forall_mem_append.mpr ⟨?_, tells⟩, ends.after clean⟩
  intro ran mem _
  exact told ran mem made

private theorem stopped (s : σ) {ran : Ran} {plan : σ → String → List Command} {detail : String}
    (onward : ∀ there made, plan there made ≠ []) (stops : ran.Stops) :
    Follows ids (fun there made => ran.command :: plan there made) [ran]
      (.error ⟨ran.command.kind, detail⟩) := by
  obtain ⟨next, later, shape⟩ := List.exists_cons_of_ne_nil (onward s "")
  refine ⟨s, "", by simp [stops], ?_⟩
  simp only [shape]
  exact .stopped [] rfl (by simp) stops

end Follows

section follows

variable {host : String} {ids : List String} {plan : σ → String → List Command}

/-- A command that tells nothing comes first, and the others follow if it is answered. -/
private theorem Spawns.follows (s : σ) {command : Command} {value : Output → α} {first : Act σ α}
    {firstWatched : Act (Watched σ) α} {rest : α → Act σ String}
    {restWatched : α → Act (Watched σ) String}
    (once : Spawns host first firstWatched (Once command value))
    (silent : ∀ output made, Ran.Tells ids made ⟨command, .ok output⟩)
    (more : ∀ there made, plan there made ≠ [])
    (onward : ∀ a, Spawns host (rest a) (restWatched a) (Follows ids plan)) :
    Spawns host (first >>= rest) (firstWatched >>= restWatched)
      (Follows ids fun there made => command :: plan there made) := by
  refine once.bind ?_ ?_
  · intro session failure ran
    cases ran with
    | stopped stops => exact .stopped s more stops
  · intro a earlier ran
    cases ran with
    | @answered output fine =>
      refine (onward _).imp ?_
      intro session result follows
      exact follows.after [⟨command, .ok output⟩] (by simpa using fine)
        (by simpa using silent output)

variable (program : Program σ)

private theorem follows_create (ids : List String) (s : σ) (spec : Spec) :
    Spawns host
      (DockerCli.create program host spec >>= startOrRemove (DockerCli.engine program host))
      (DockerCli.create program.watched host spec >>=
        startOrRemove (DockerCli.engine program.watched host))
      (Follows ids fun (_ : σ) made => [.create spec, .start made]) := by
  refine (once_create spec).bind ?_ ?_
  · intro session failure ran
    cases ran with
    | stopped stops => exact .stopped s (by simp) stops
  · intro made earlier ran
    cases ran with
    | @answered output fine =>
      refine (starts_or_removes _).imp ?_
      intro session result starts
      refine ⟨s, trimmed output.stdout, ?_, ?_⟩
      · cases starts with
        | started _ => simp [Ran.Tells]
        | removed _ => simp [Ran.Tells]
      · cases starts with
        | started fine' => exact .done rfl (by simp [fine, fine'])
        | removed stops => exact .unstarted [_] rfl (by simpa using fine) stops

private theorem follows_stamp (ids : List String) (stamp : StateM σ Int) (s : σ)
    (spec : Int → Spec) :
    Spawns host
      (liftM stamp >>= fun suffix =>
        DockerCli.create program host (spec suffix) >>=
          startOrRemove (DockerCli.engine program host))
      (liftM (unwatched stamp) >>= fun suffix =>
        DockerCli.create program.watched host (spec suffix) >>=
          startOrRemove (DockerCli.engine program.watched host))
      (Follows ids fun there made => [.create (spec (stamp there).1), .start made]) := by
  refine (Spawns.aside stamp).bind ?_ ?_
  · rintro session failure ⟨-, there, same⟩
    cases same
  · rintro suffix earlier ⟨rfl, there, same⟩
    cases same
    refine (follows_create program ids s _).imp ?_
    rintro session result ⟨_, made, tells, ends⟩
    exact ⟨there, made, tells, ends⟩

private theorem follows_remove (s : σ) (stale : List String) {rest : Act σ String}
    {restWatched : Act (Watched σ) String} (more : ∀ there made, plan there made ≠ [])
    (onward : Spawns host rest restWatched (Follows ids plan)) :
    Spawns host (removeStale (DockerCli.engine program host) stale >>= fun _ => rest)
      (removeStale (DockerCli.engine program.watched host) stale >>= fun _ => restWatched)
      (Follows ids fun there made => stale.map .remove ++ plan there made) := by
  induction stale with
  | nil => simpa only [removeStale, pure_bind, List.map_nil, List.nil_append] using onward
  | cons id stale ih =>
    have once : Spawns host ((DockerCli.remove program host id).restate (staleFailure id))
        ((DockerCli.remove program.watched host id).restate (staleFailure id))
        (Once (.remove id) fun _ => ()) :=
      (once_demand (.remove id) _ (fun _ useless => useless) _ _).restated
        fun _ same => if_pos same
    simp only [removeStale, bind_assoc]
    exact once.follows s (fun _ _ => trivial) (by simp [more]) fun _ => ih

private theorem follows_list (s : σ) {plan : List String → σ → String → List Command}
    {rest : List String → Act σ String} {restWatched : List String → Act (Watched σ) String}
    (more : ∀ ids there made, plan ids there made ≠ [])
    (onward : ∀ ids, Spawns host (rest ids) (restWatched ids) (Follows ids (plan ids))) :
    Spawns host (DockerCli.list program host markerLabel >>= rest)
      (DockerCli.list program.watched host markerLabel >>= restWatched)
      (fun session result => ∃ ids,
        Follows ids (fun there made => .list :: plan ids there made) session result) := by
  have once : Spawns host (DockerCli.list program host markerLabel)
      (DockerCli.list program.watched host markerLabel)
      (Once .list fun output => listedIds output.stdout) :=
    once_demand .list _ (fun _ useless => useless) _ _
  refine once.bind ?_ ?_
  · intro session failure ran
    cases ran with
    | stopped stops => exact ⟨[], .stopped s (more []) stops⟩
  · intro ids earlier ran
    cases ran with
    | @answered output fine =>
      refine (onward _).imp ?_
      intro session result follows
      exact ⟨_, follows.after [⟨.list, .ok output⟩] (by simpa using fine)
        (by simp [Ran.Tells])⟩

end follows

theorem spawns_install (program : Program σ) (stamp : StateM σ Int) (endpoint proxyPath : String)
    (args : List String) (s : σ) :
    Spawns endpoint (install (DockerCli.connect program) stamp endpoint proxyPath args)
      (install (DockerCli.connect program.watched) (unwatched stamp) endpoint proxyPath args)
      (fun session result => ∃ ids, Follows ids
        (fun there => plan ids (Spec.proxy endpoint proxyPath args (stamp there).1))
        session result) := by
  have version : Spawns endpoint
      (DockerCli.demand program endpoint Command.version.args Command.version.kind
        s!"running {program.name}" s!"docker at {endpoint}")
      (DockerCli.demand program.watched endpoint Command.version.args Command.version.kind
        s!"running {program.name}" s!"docker at {endpoint}")
      (Once .version id) := by
    refine (spawns_demand .version _ _).imp ?_
    intro session result asked
    cases asked with
    | succeeded exit => exact .answered (Ran.fine exit fun useless => useless)
    | failed stops => exact .stopped stops
  have pull : Spawns endpoint
      ((DockerCli.pull program endpoint proxyImage).restate (pullFailure proxyImage))
      ((DockerCli.pull program.watched endpoint proxyImage).restate (pullFailure proxyImage))
      (Once .pull fun _ => ()) :=
    once_pull.restated fun _ same => if_pos same
  simp only [install, DockerCli.connect, bind_assoc, pure_bind]
  refine version.bind ?_ ?_
  · intro session failure ran
    cases ran with
    | stopped stops => exact ⟨[], .stopped s (by simp) stops⟩
  · intro _ reached ran
    cases ran with
    | @answered output fine =>
      have onward (ids : List String) := follows_remove program s ids (by simp)
        (pull.follows s (fun _ _ => trivial) (by simp) fun _ =>
          follows_stamp program ids stamp s (Spec.proxy endpoint proxyPath args))
      refine (follows_list program s (by simp) onward).imp ?_
      rintro session result ⟨ids, follows⟩
      exact ⟨ids, follows.after [⟨.version, .ok output⟩] (by simpa using fine)
        (by simp [Ran.Tells])⟩

/-- An installation over the command line is a session with the program: its commands in the
order of the plan, up to the first that stops it. -/
theorem install_session (program : Program σ) (stamp : StateM σ Int) (endpoint proxyPath : String)
    (args : List String) (s : σ) :
    let plain := (install (DockerCli.connect program) stamp endpoint proxyPath args).run s
    let watched := (install (DockerCli.connect program.watched) (unwatched stamp) endpoint
      proxyPath args).run (s, [])
    (watched.1, watched.2.1) = plain ∧
    ∃ session ids there made,
      watched.2.2 = session.map (Ran.invocation endpoint) ∧
      (∀ ran ∈ session, ¬ ran.Stops → ran.Tells ids made) ∧
      Ends (plan ids (Spec.proxy endpoint proxyPath args (stamp there).1) made) made session
        plain.1 ∧
      ((∃ id, plain.1 = .ok id) ↔ ∀ ran ∈ session, ¬ ran.Stops) := by
  intro plain watched
  obtain ⟨session, ⟨ids, there, made, tells, ends⟩, same⟩ :=
    spawns_install program stamp endpoint proxyPath args s s
  have ran : watched = (plain.1, plain.2, session.map (Ran.invocation endpoint)) := same []
  rw [ran]
  exact ⟨rfl, session, ids, there, made, rfl, tells, ends, ends.ok_iff⟩

end RuntimeHandover.Container
