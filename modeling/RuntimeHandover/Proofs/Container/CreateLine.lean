import Mathlib
import RuntimeHandover.Container.DockerCli

/-! The command line that makes a container, read back by a reader that knows the options and
nothing of how the line was written. What it finds is what the container was made from, whatever
words stand in the command, and no two requests are written alike. -/
namespace RuntimeHandover.Container

inductive CreateOption where
  | name
  | network
  | restart
  | label
  | env
  | volume
  deriving DecidableEq

namespace CreateOption

def word : CreateOption → String
  | .name => "--name"
  | .network => "--network"
  | .restart => "--restart"
  | .label => "--label"
  | .env => "--env"
  | .volume => "--volume"

def ofWord? : String → Option CreateOption
  | "--name" => some .name
  | "--network" => some .network
  | "--restart" => some .restart
  | "--label" => some .label
  | "--env" => some .env
  | "--volume" => some .volume
  | _ => none

private theorem ofWord?_word (option : CreateOption) : ofWord? option.word = some option := by
  cases option <;> rfl

end CreateOption

/-- A command line that makes a container: options with their values, the image and the command
to run in it. -/
structure CreateLine where
  options : List (CreateOption × String)
  image : String
  cmd : List String

namespace CreateLine

/-- Options come with their values until a word that is none. It is the image, and all that
follows is the command. -/
def read? : List String → Option CreateLine
  | [] => none
  | word :: rest =>
    match CreateOption.ofWord? word, rest with
    | none, cmd => some ⟨[], word, cmd⟩
    | some _, [] => none
    | some option, value :: rest =>
      (read? rest).map fun line => {line with options := (option, value) :: line.options}

def ofArgs? : List String → Option CreateLine
  | "create" :: words => read? words
  | _ => none

def values (line : CreateLine) (option : CreateOption) : List String :=
  (line.options.filter (·.1 = option)).map (·.2)

def labelOf (text : String) : String × String :=
  (String.ofList (text.toList.takeWhile (· ≠ '=')),
    String.ofList ((text.toList.dropWhile (· ≠ '=')).drop 1))

def labels (line : CreateLine) : List (String × String) := (line.values .label).map labelOf

private theorem labelOf_written {key : String} (plain : '=' ∉ key.toList) (value : String) :
    labelOf (key ++ "=" ++ value) = (key, value) := by
  have ahead : ∀ c ∈ key.toList, decide (c ≠ '=') = true := by
    intro c inside
    have other : c ≠ '=' := by
      rintro rfl
      exact plain inside
    simpa using other
  unfold labelOf
  rw [String.append_assoc, String.toList_append, List.takeWhile_append_of_pos ahead,
    List.dropWhile_append_of_pos ahead]
  simp [String.toList_append]

private theorem read?_image {image : String} (plain : CreateOption.ofWord? image = none)
    (cmd : List String) : read? (image :: cmd) = some ⟨[], image, cmd⟩ := by
  unfold read?
  rw [plain]

private theorem read?_option (option : CreateOption) (value : String) (rest : List String) :
    read? (option.word :: value :: rest) =
      (read? rest).map fun line => {line with options := (option, value) :: line.options} := by
  conv => lhs; unfold read?
  rw [CreateOption.ofWord?_word]

/-- Options that are written with their values are read as they were, whatever the command is. -/
private theorem read?_written (options : List (CreateOption × String)) {image : String}
    (plain : CreateOption.ofWord? image = none) (cmd : List String) :
    read? (options.flatMap (fun given => [given.1.word, given.2]) ++ image :: cmd) =
      some ⟨options, image, cmd⟩ := by
  induction options with
  | nil => exact read?_image plain cmd
  | cons given rest ih =>
    refine (read?_option given.1 given.2 _).trans ?_
    exact congrArg (Option.map _) ih

example : read? ["--env", "A=b", "busybox", "--name", "busybox", ""] =
    some ⟨[(.env, "A=b")], "busybox", ["--name", "busybox", ""]⟩ := by
  rfl

end CreateLine

namespace Spec

def options (spec : Spec) : List (CreateOption × String) :=
  [(.name, spec.name), (.network, spec.networkMode), (.restart, spec.restartPolicy)] ++
  spec.labels.map (fun label => (.label, label.1 ++ "=" ++ label.2)) ++
  spec.env.map (fun setting => (.env, setting)) ++ spec.binds.map (fun bind => (.volume, bind))

private theorem createArgs_eq (spec : Spec) :
    createArgs spec = "create" ::
      (spec.options.flatMap (fun given => [given.1.word, given.2]) ++ spec.image :: spec.cmd) := by
  simp [createArgs, options, CreateOption.word, List.flatMap_map]

private theorem values_options (spec : Spec) (option : CreateOption) :
    CreateLine.values ⟨spec.options, spec.image, spec.cmd⟩ option =
      match option with
      | .name => [spec.name]
      | .network => [spec.networkMode]
      | .restart => [spec.restartPolicy]
      | .label => spec.labels.map fun label => label.1 ++ "=" ++ label.2
      | .env => spec.env
      | .volume => spec.binds := by
  cases option <;> simp [CreateLine.values, options, List.filter_map, Function.comp_def]

structure Plain (spec : Spec) : Prop where
  image : CreateOption.ofWord? spec.image = none
  labels : ∀ label ∈ spec.labels, '=' ∉ label.1.toList

variable {spec other : Spec}

private theorem labels_options (plain : spec.Plain) :
    CreateLine.labels ⟨spec.options, spec.image, spec.cmd⟩ = spec.labels := by
  unfold CreateLine.labels
  rw [values_options, List.map_map]
  refine (List.map_congr_left ?_).trans (List.map_id _)
  intro label inside
  exact CreateLine.labelOf_written (plain.labels label inside) label.2

private theorem ofArgs?_createArgs (plain : spec.Plain) :
    CreateLine.ofArgs? (createArgs spec) = some ⟨spec.options, spec.image, spec.cmd⟩ := by
  rw [createArgs_eq]
  exact CreateLine.read?_written spec.options plain.image spec.cmd

private theorem createArgs_injective (plain : spec.Plain) (otherPlain : other.Plain)
    (same : createArgs spec = createArgs other) : spec = other := by
  have read := congrArg CreateLine.ofArgs? same
  rw [ofArgs?_createArgs plain, ofArgs?_createArgs otherPlain, Option.some.injEq] at read
  have value (option : CreateOption) := congrArg (CreateLine.values · option) read
  simp only [values_options] at value
  have labels := congrArg CreateLine.labels read
  rw [labels_options plain, labels_options otherPlain] at labels
  cases spec
  cases other
  simp only [Spec.mk.injEq]
  exact ⟨List.singleton_inj.mp (value .name), congrArg CreateLine.image read, labels, value .env,
    congrArg CreateLine.cmd read, value .volume, List.singleton_inj.mp (value .network),
    List.singleton_inj.mp (value .restart)⟩

end Spec

theorem afterStart?_eq_some {start text rest : String} :
    afterStart? start text = some rest ↔ text = start ++ rest := by
  unfold afterStart?
  constructor
  · intro found
    split at found
    next begins =>
      obtain ⟨more, split⟩ := List.isPrefixOf_iff_prefix.mp begins
      rw [← split, List.drop_left, Option.some.injEq] at found
      apply String.toList_inj.mp
      rw [String.toList_append, ← found, String.toList_ofList, split]
    next => cases found
  · rintro rfl
    simp

namespace Spec

private theorem plain_proxy (endpoint proxyPath : String) (args : List String) (suffix : Int) :
    (Spec.proxy endpoint proxyPath args suffix).Plain := by
  refine ⟨rfl, ?_⟩
  intro label inside
  rw [List.mem_singleton.mp inside]
  decide

section told

variable {endpoint otherEndpoint proxyPath otherPath : String} {args otherArgs : List String}
  {suffix otherSuffix : Int}

theorem proxy_binds (endpoint proxyPath : String) (args : List String) (suffix : Int) :
    (Spec.proxy endpoint proxyPath args suffix).binds =
      ["/run:/run", proxyPath ++ ":" ++ "/criproxy"] ++
        (afterStart? unixScheme endpoint).toList.map (· ++ ":" ++ "/var/run/docker.sock") := rfl

/-- Where the engine listens is told by the mounted socket, or else by the environment. -/
private theorem endpoint_of_proxy
    (env : (Spec.proxy endpoint proxyPath args suffix).env =
      (Spec.proxy otherEndpoint otherPath otherArgs otherSuffix).env)
    (sockets : afterStart? unixScheme endpoint = afterStart? unixScheme otherEndpoint) :
    endpoint = otherEndpoint := by
  unfold Spec.proxy at env
  dsimp only at env
  rw [← sockets] at env
  cases found : afterStart? unixScheme endpoint with
  | some socket =>
    have here := afterStart?_eq_some.mp found
    have there := afterStart?_eq_some.mp (sockets ▸ found)
    rw [here, there]
  | none =>
    rw [found] at env
    exact (String.append_right_inj _).mp (List.singleton_inj.mp env)

/-- What a proxy is made from tells what was asked for. -/
private theorem proxy_injective
    (same : Spec.proxy endpoint proxyPath args suffix =
      Spec.proxy otherEndpoint otherPath otherArgs otherSuffix) :
    endpoint = otherEndpoint ∧ proxyPath = otherPath ∧ args = otherArgs ∧
      suffix = otherSuffix := by
  have name : "criproxy-" ++ toString suffix = "criproxy-" ++ toString otherSuffix :=
    congrArg Spec.name same
  have binds := congrArg Spec.binds same
  rw [proxy_binds, proxy_binds] at binds
  obtain ⟨-, binds⟩ := List.cons.inj binds
  obtain ⟨path, sockets⟩ := List.cons.inj binds
  have mounted : Function.Injective fun socket => socket ++ ":" ++ "/var/run/docker.sock" := by
    intro socket otherSocket same
    exact (String.append_left_inj _).mp ((String.append_left_inj _).mp same)
  refine ⟨endpoint_of_proxy (congrArg Spec.env same) ?_, ?_, ?_, ?_⟩
  · have listed := List.map_injective_iff.mpr mounted sockets
    simpa using congrArg List.head? listed
  · exact (String.append_left_inj _).mp ((String.append_left_inj _).mp path)
  · exact (List.cons.inj (congrArg Spec.cmd same)).2
  · exact Int.repr_injective ((String.append_right_inj _).mp name)

end told

section host

variable (proxyPath : String) (args : List String) (suffix : Int)

private theorem engineHost?_proxy (endpoint : String) :
    (Spec.proxy endpoint proxyPath args suffix).engineHost? =
      some (match afterStart? unixScheme endpoint with
        | some _ => "unix:///var/run/docker.sock"
        | none => endpoint) := by
  have told (host : String) : [engineHostVariable ++ "=" ++ host].findSome?
      (afterStart? (engineHostVariable ++ "=")) = some host := by
    rw [List.findSome?_cons, afterStart?_eq_some.mpr rfl]
  exact told _

/-- The container is told of the mounted socket when the engine listens on this host. -/
private theorem engineHost?_proxy_mounted (endpoint : String) :
    (Spec.proxy endpoint proxyPath args suffix).engineHost? = some "unix:///var/run/docker.sock" ↔
      ∃ socket, endpoint = "unix://" ++ socket := by
  rw [engineHost?_proxy]
  cases found : afterStart? unixScheme endpoint with
  | some socket => simpa using ⟨socket, afterStart?_eq_some.mp found⟩
  | none =>
    rw [Option.some.injEq]
    constructor
    · rintro rfl
      exact ⟨"/var/run/docker.sock", rfl⟩
    · rintro ⟨socket, split⟩
      have begins : afterStart? unixScheme endpoint = some socket := afterStart?_eq_some.mpr split
      rw [found] at begins
      cases begins

private theorem engineHost?_proxy_plain {endpoint : String}
    (elsewhere : ∀ socket, endpoint ≠ "unix://" ++ socket) :
    (Spec.proxy endpoint proxyPath args suffix).engineHost? = some endpoint := by
  rw [engineHost?_proxy]
  cases found : afterStart? unixScheme endpoint with
  | some socket => exact absurd (afterStart?_eq_some.mp found) (elsewhere socket)
  | none => rfl

end host

end Spec

/-- Whatever is asked for, a reader finds on the command line exactly the options, the image and
the command of the container, and another request is written in another way. The container is told
of the engine's own endpoint, or of the mounted socket when the engine listens on this host. -/
theorem createArgs_read (endpoint proxyPath : String) (args : List String) (suffix : Int) :
    let spec := Spec.proxy endpoint proxyPath args suffix
    (∃ line, CreateLine.ofArgs? (createArgs spec) = some line ∧
      line.values .name = [spec.name] ∧ line.values .network = [spec.networkMode] ∧
      line.values .restart = [spec.restartPolicy] ∧ line.labels = spec.labels ∧
      line.values .env = spec.env ∧ line.values .volume = spec.binds ∧
      line.image = spec.image ∧ line.cmd = spec.cmd) ∧
    (∀ otherEndpoint otherPath otherArgs otherSuffix,
      createArgs spec = createArgs (Spec.proxy otherEndpoint otherPath otherArgs otherSuffix) →
      endpoint = otherEndpoint ∧ proxyPath = otherPath ∧ args = otherArgs ∧
        suffix = otherSuffix) ∧
    (spec.engineHost? = some "unix:///var/run/docker.sock" ↔
      ∃ socket, endpoint = "unix://" ++ socket) ∧
    ((∀ socket, endpoint ≠ "unix://" ++ socket) → spec.engineHost? = some endpoint) := by
  intro spec
  have plain : spec.Plain := Spec.plain_proxy endpoint proxyPath args suffix
  have value := spec.values_options
  refine ⟨⟨_, Spec.ofArgs?_createArgs plain, value .name, value .network, value .restart,
    Spec.labels_options plain, value .env, value .volume, rfl, rfl⟩, ?_, ?_, ?_⟩
  · intro otherEndpoint otherPath otherArgs otherSuffix same
    have otherPlain := Spec.plain_proxy otherEndpoint otherPath otherArgs otherSuffix
    exact Spec.proxy_injective (Spec.createArgs_injective plain otherPlain same)
  · exact Spec.engineHost?_proxy_mounted proxyPath args suffix endpoint
  · exact Spec.engineHost?_proxy_plain proxyPath args suffix

end RuntimeHandover.Container
