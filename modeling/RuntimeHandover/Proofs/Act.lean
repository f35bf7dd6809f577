import RuntimeHandover.Failure

/-! What actions do when they are run from a given state of their world. -/
namespace RuntimeHandover

theorem bind_eq_ok_iff {ε α β : Type} {first : Except ε α} {next : α → Except ε β} {b : β} :
    (first >>= next) = .ok b ↔ ∃ a, first = .ok a ∧ next a = .ok b := by
  cases first with
  | error e => simp [bind, Except.bind]
  | ok a => simp [bind, Except.bind]

theorem bind_of_ran {σ α β : Type} {first : StateM σ α} {s after : σ} {a : α}
    (ran : first s = (a, after)) (next : α → StateM σ β) :
    (first >>= next) s = next a after := by
  change next (first s).1 (first s).2 = _
  rw [ran]

end RuntimeHandover

namespace RuntimeHandover.Act

variable {σ α β : Type}

@[simp] theorem run_pure (a : α) (s : σ) : (pure a : Act σ α).run s = (.ok a, s) := rfl

@[simp] theorem run_throw (failure : Failure) (s : σ) :
    (throw failure : Act σ α).run s = (.error failure, s) := rfl

@[simp] theorem run_ofExcept (result : Except Failure α) (s : σ) :
    (ofExcept result : Act σ α).run s = (result, s) := rfl

@[simp] theorem run_liftM (action : StateM σ α) (s : σ) :
    (liftM action : Act σ α).run s = (.ok (action s).1, (action s).2) := rfl

@[simp] theorem run_get (s : σ) : (get : Act σ σ).run s = (.ok s, s) := rfl

@[simp] theorem run_outcome (action : Act σ α) (s : σ) :
    action.outcome.run s = (.ok (action.run s).1, (action.run s).2) := rfl

@[simp] theorem run_restate (action : Act σ α) (words : Failure → Failure) (s : σ) :
    (action.restate words).run s = ((action.run s).1.mapError words, (action.run s).2) := rfl

/-- A sequence goes on from where its first part ended, or ends with its failure. -/
theorem run_bind (first : Act σ α) (next : α → Act σ β) (s : σ) :
    (first >>= next).run s = match first.run s with
      | (.ok a, after) => (next a).run after
      | (.error failure, after) => (.error failure, after) := by
  change (match first.run s with
    | (result, after) => ExceptT.bindCont next result after) = _
  rcases first.run s with ⟨failure | a, after⟩
  · rfl
  · rfl

theorem run_bind_ok {first : Act σ α} {next : α → Act σ β} {s after : σ} {a : α}
    (ok : first.run s = (.ok a, after)) : (first >>= next).run s = (next a).run after := by
  rw [run_bind, ok]

theorem run_bind_error {first : Act σ α} {next : α → Act σ β} {s after : σ} {failure : Failure}
    (failed : first.run s = (.error failure, after)) :
    (first >>= next).run s = (.error failure, after) := by
  rw [run_bind, failed]

theorem run_bind_eq_ok {first : Act σ α} {next : α → Act σ β} {s after : σ} {b : β} :
    (first >>= next).run s = (.ok b, after) ↔
      ∃ a between, first.run s = (.ok a, between) ∧ (next a).run between = (.ok b, after) := by
  rw [run_bind]
  rcases first.run s with ⟨failure | a, between⟩
  · constructor
    · intro same
      cases same
    · intro went
      obtain ⟨_, _, same, _⟩ := went
      cases same
  · constructor
    · intro went
      exact ⟨a, between, rfl, went⟩
    · intro went
      obtain ⟨_, _, same, went⟩ := went
      cases same
      exact went

theorem run_ofExcept_eq_ok {result : Except Failure α} {s after : σ} {a : α} :
    (ofExcept result : Act σ α).run s = (.ok a, after) ↔ result = .ok a ∧ s = after :=
  Prod.mk.injEq .. ▸ Iff.rfl

theorem run_liftM_eq_ok {action : StateM σ α} {s after : σ} {a : α} :
    (liftM action : Act σ α).run s = (.ok a, after) ↔ action s = (a, after) := by
  rw [run_liftM]
  rcases action s with ⟨b, there⟩
  constructor
  · intro same
    cases same
    rfl
  · intro same
    cases same
    rfl

@[simp] theorem run_map (f : α → β) (action : Act σ α) (s : σ) :
    (f <$> action).run s = ((action.run s).1.map f, (action.run s).2) := by
  rw [← bind_pure_comp, run_bind]
  rcases action.run s with ⟨failure | a, after⟩
  · rfl
  · rfl

def Keeps {τ : Type} (part : σ → τ) (action : StateM σ α) : Prop :=
  ∀ s, part (action s).2 = part s

namespace Keeps

variable {τ : Type} {part : σ → τ}

theorem same {action : StateM σ α} (kept : Keeps part action) {s after : σ} {a : α}
    (ran : action s = (a, after)) : part after = part s := by
  have unchanged := kept s
  rwa [ran] at unchanged

theorem pure (a : α) : Keeps part (Pure.pure a : StateM σ α) := fun _ => rfl

theorem bind {first : StateM σ α} {next : α → StateM σ β} (kept : Keeps part first)
    (keptOn : ∀ a, Keeps part (next a)) : Keeps part (first >>= next) := by
  intro s
  exact (keptOn (first s).1 (first s).2).trans (kept s)

theorem liftM {action : StateM σ α} (kept : Keeps part action) :
    Keeps part (MonadLiftT.monadLift action : Act σ α).run := kept

theorem run_bind {first : Act σ α} {next : α → Act σ β} (kept : Keeps part first.run)
    (keptOn : ∀ a, Keeps part (next a).run) : Keeps part (first >>= next).run := by
  intro s
  rcases ran : first.run s with ⟨failure | a, after⟩
  · rw [run_bind_error ran]
    exact kept.same ran
  · rw [run_bind_ok ran]
    exact (keptOn a after).trans (kept.same ran)

end Keeps

end RuntimeHandover.Act
