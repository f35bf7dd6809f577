import RuntimeHandover.Proofs.Act

/-! Two actions side by side, each in a world of its own. Whatever relation the worlds are in
before, they are in afterwards, and the answers are in a relation too. -/
namespace RuntimeHandover

inductive Paired {ε α β : Type} (alike : α → β → Prop) : Except ε α → Except ε β → Prop
  | ok {a : α} {b : β} (same : alike a b) : Paired alike (.ok a) (.ok b)
  | error (fault : ε) : Paired alike (.error fault) (.error fault)

namespace Paired

variable {ε ζ α β γ δ : Type} {alike : α → β → Prop} {alikeNext : γ → δ → Prop}

theorem refl (result : Except ε α) : Paired Eq result result := by
  cases result with
  | error fault => exact .error fault
  | ok a => exact .ok rfl

theorem of_eq {one other : Except ε α} (same : one = other) : Paired Eq one other :=
  same ▸ refl one

theorem eq {one other : Except ε α} (paired : Paired Eq one other) : one = other := by
  cases paired with
  | ok same => rw [same]
  | error fault => rfl

theorem imp {wider : α → β → Prop} {one : Except ε α} {other : Except ε β}
    (paired : Paired alike one other) (widen : ∀ {a b}, alike a b → wider a b) :
    Paired wider one other := by
  cases paired with
  | ok same => exact .ok (widen same)
  | error fault => exact .error fault

theorem bind {one : Except ε α} {other : Except ε β} {next : α → Except ε γ}
    {nextOther : β → Except ε δ} (first : Paired alike one other)
    (onward : ∀ a b, alike a b → Paired alikeNext (next a) (nextOther b)) :
    Paired alikeNext (one >>= next) (other >>= nextOther) := by
  cases first with
  | ok same => exact onward _ _ same
  | error fault => exact .error fault

theorem map {one : Except ε α} {other : Except ε β} {f : α → γ} {g : β → δ}
    (paired : Paired alike one other) (mapped : ∀ {a b}, alike a b → alikeNext (f a) (g b)) :
    Paired alikeNext (one.map f) (other.map g) := by
  cases paired with
  | ok same => exact .ok (mapped same)
  | error fault => exact .error fault

private theorem mapError {one : Except ε α} {other : Except ε β} (paired : Paired alike one other)
    (words : ε → ζ) : Paired alike (one.mapError words) (other.mapError words) := by
  cases paired with
  | ok same => exact .ok same
  | error fault => exact .error _

end Paired

/-- From worlds in a relation two actions give answers in a relation, and leave the worlds in
it. -/
def Abreast {σ τ α β : Type} (world : σ → τ → Prop) (alike : α → β → Prop) (one : StateM σ α)
    (other : StateM τ β) : Prop :=
  ∀ s t, world s t → alike (one s).1 (other t).1 ∧ world (one s).2 (other t).2

def Act.Abreast {σ τ α β : Type} (world : σ → τ → Prop) (alike : α → β → Prop) (one : Act σ α)
    (other : Act τ β) : Prop :=
  RuntimeHandover.Abreast world (Paired alike) one.run other.run

section abreast

variable {σ τ α β γ δ : Type} {world : σ → τ → Prop} {alike : α → β → Prop}
  {alikeNext : γ → δ → Prop}

theorem Abreast.pure {a : α} {b : β} (same : alike a b) :
    Abreast world alike (Pure.pure a) (Pure.pure b) :=
  fun _ _ start => ⟨same, start⟩

theorem Abreast.bind {one : StateM σ α} {other : StateM τ β} {next : α → StateM σ γ}
    {nextOther : β → StateM τ δ} (first : Abreast world alike one other)
    (onward : ∀ a b, alike a b → Abreast world alikeNext (next a) (nextOther b)) :
    Abreast world alikeNext (one >>= next) (other >>= nextOther) := by
  intro s t start
  obtain ⟨same, between⟩ := first s t start
  exact onward _ _ same _ _ between

namespace Act.Abreast

theorem ofExcept {one : Except Failure α} {other : Except Failure β}
    (paired : Paired alike one other) :
    Abreast world alike (Act.ofExcept one) (Act.ofExcept other) :=
  fun _ _ start => ⟨paired, start⟩

theorem pure {a : α} {b : β} (same : alike a b) :
    Abreast world alike (Pure.pure a) (Pure.pure b) :=
  ofExcept (.ok same)

theorem throw (failure : Failure) :
    Abreast world alike (MonadExcept.throw failure) (MonadExcept.throw failure) :=
  ofExcept (.error failure)

theorem bind {one : Act σ α} {other : Act τ β} {next : α → Act σ γ} {nextOther : β → Act τ δ}
    (first : Abreast world alike one other)
    (onward : ∀ a b, alike a b → Abreast world alikeNext (next a) (nextOther b)) :
    Abreast world alikeNext (one >>= next) (other >>= nextOther) := by
  intro s t start
  obtain ⟨paired, between⟩ := first s t start
  rcases ran : one.run s with ⟨result, after⟩
  rcases ranOther : other.run t with ⟨resultOther, afterOther⟩
  rw [ran, ranOther] at paired between
  cases paired with
  | error failure =>
    rw [run_bind_error ran, run_bind_error ranOther]
    exact ⟨.error failure, between⟩
  | ok same =>
    rw [run_bind_ok ran, run_bind_ok ranOther]
    exact onward _ _ same _ _ between

theorem map {one : Act σ α} {other : Act τ β} {f : α → γ} {g : β → δ}
    (abreast : Abreast world alike one other)
    (mapped : ∀ {a b}, alike a b → alikeNext (f a) (g b)) :
    Abreast world alikeNext (f <$> one) (g <$> other) := by
  intro s t start
  obtain ⟨paired, after⟩ := abreast s t start
  rw [Act.run_map, Act.run_map]
  exact ⟨paired.map mapped, after⟩

theorem restate {one : Act σ α} {other : Act τ β} (abreast : Abreast world alike one other)
    (words : Failure → Failure) :
    Abreast world alike (one.restate words) (other.restate words) := by
  intro s t start
  obtain ⟨paired, after⟩ := abreast s t start
  exact ⟨paired.mapError words, after⟩

theorem outcome {one : Act σ α} {other : Act τ β} (abreast : Abreast world alike one other) :
    Abreast world (Paired alike) one.outcome other.outcome := by
  intro s t start
  obtain ⟨paired, after⟩ := abreast s t start
  exact ⟨.ok paired, after⟩

theorem liftM {one : StateM σ α} {other : StateM τ β}
    (abreast : RuntimeHandover.Abreast world alike one other) :
    Abreast world alike (MonadLiftT.monadLift one) (MonadLiftT.monadLift other) := by
  intro s t start
  obtain ⟨same, after⟩ := abreast s t start
  exact ⟨.ok same, after⟩

end Act.Abreast

end abreast

end RuntimeHandover
