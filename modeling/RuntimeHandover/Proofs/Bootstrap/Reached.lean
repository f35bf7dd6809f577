import RuntimeHandover.Container.DockerCli
import RuntimeHandover.Kubelet.Introspection
import RuntimeHandover.Proofs.Bootstrap.Alike

/-! The kubelet and the engine by what carries the calls to them. They answer alike where the
wires and the docker programs do. -/
namespace RuntimeHandover.Bootstrap
open Container Http Kubelet

section wires

variable {σ τ : Type} {world : σ → τ → Prop} {wire : Wire σ} {wireOther : Wire τ}
  (wires : ∀ request, Abreast world Eq (wire request) (wireOther request))

include wires

private theorem abreast_follow (origin : Request) (left : Nat) (url : Url)
    (authorization : Option String) :
    Abreast world Eq (follow wire origin left url authorization)
      (follow wireOther origin left url authorization) := by
  induction left generalizing url authorization with
  | zero =>
    unfold follow
    refine (wires _).bind ?_
    rintro answer _ rfl
    split
    next => exact .pure rfl
    next =>
      split
      next => exact .pure rfl
      next => exact .pure rfl
  | succ left ih =>
    unfold follow
    refine (wires _).bind ?_
    rintro answer _ rfl
    split
    next => exact .pure rfl
    next =>
      split
      next => exact .pure rfl
      next =>
        dsimp only
        split
        next => exact ih _ _
        next => exact .pure rfl

private theorem abreast_get (url : Url) :
    Abreast world Eq (Http.get wire url) (Http.get wireOther url) := by
  unfold Http.get
  dsimp only
  split
  next => exact abreast_follow wires _ _ _ _
  next => exact .pure rfl

private theorem abreast_fetchObject (base suffix : String) :
    Act.Abreast world Eq (fetchObject wire base suffix) (fetchObject wireOther base suffix) := by
  refine (Act.Abreast.ofExcept (.refl _)).bind ?_
  rintro url _ rfl
  refine (Act.Abreast.liftM (abreast_get wires url)).bind ?_
  rintro got _ rfl
  split
  next => exact .throw _
  next => exact .ofExcept (.refl _)

theorem abreast_fetchLiveConfig (base : String) :
    Act.Abreast world Eq (fetchLiveConfig wire base) (fetchLiveConfig wireOther base) := by
  refine (abreast_fetchObject wires base configPath).bind ?_
  rintro members _ rfl
  exact .ofExcept (.refl _)

theorem abreast_fetchNode (base : String) :
    Act.Abreast world Eq (fetchNode wire base) (fetchNode wireOther base) := by
  refine (abreast_fetchObject wires base statsPath).bind ?_
  rintro members _ rfl
  exact .ofExcept (.refl _)

end wires

section programs

variable {σ τ : Type} {world : σ → τ → Prop} {program : Program σ} {programOther : Program τ}
  (named : program.name = programOther.name)
  (programs : ∀ args, Abreast world Eq (program.run args) (programOther.run args))

include programs

private theorem abreast_demand (host : String) (args : List String) (kind : FailureKind)
    (unspawned failed : String) :
    Act.Abreast world Eq (DockerCli.demand program host args kind unspawned failed)
      (DockerCli.demand programOther host args kind unspawned failed) := by
  refine (Act.Abreast.liftM (programs _)).bind ?_
  rintro ran _ rfl
  split
  next => exact .throw _
  next =>
    split
    next => exact .pure rfl
    next => exact .throw _

private theorem engines_docker {leeway : Leeway} (stamps : ∀ {m n}, leeway.stamp m n → m = n)
    (host : String) :
    Engines leeway world (DockerCli.engine program host) (DockerCli.engine programOther host) where
  list label := by
    refine (abreast_demand programs _ _ _ _ _).bind ?_
    rintro output _ rfl
    exact .pure rfl
  remove id := (abreast_demand programs _ _ _ _ _).bind fun _ _ _ => .pure rfl
  pull image := by
    refine (Act.Abreast.liftM (programs _)).bind ?_
    rintro ran _ rfl
    split
    next => exact .throw _
    next =>
      split
      next => exact .throw _
      next =>
        split
        next => exact .pure rfl
        next => exact .throw _
  create same := by
    cases same with
    | proxy endpoint proxyPath args stamped =>
      rw [stamps stamped]
      refine (abreast_demand programs _ _ _ _ _).bind ?_
      rintro output _ rfl
      dsimp only
      split
      next => exact .throw _
      next => exact .pure rfl
  start id := (abreast_demand programs _ _ _ _ _).bind fun _ _ _ => .pure rfl

include named

theorem abreast_dockerConnect {leeway : Leeway} (stamps : ∀ {m n}, leeway.stamp m n → m = n)
    (host : String) :
    Act.Abreast world (Engines leeway world) (DockerCli.connect program host)
      (DockerCli.connect programOther host) := by
  unfold DockerCli.connect
  rw [named]
  refine (abreast_demand programs _ _ _ _ _).bind fun _ _ _ => ?_
  exact .pure (engines_docker programs stamps host)

end programs

end RuntimeHandover.Bootstrap
