import RuntimeHandover.Container.Spec
import RuntimeHandover.Failure

/-! A container engine by what can be asked of it. -/
namespace RuntimeHandover.Container

structure Engine (σ : Type) where
  list : String → Act σ (List String)
  remove : String → Act σ Unit
  pull : String → Act σ Unit
  create : Spec → Act σ String
  start : String → Act σ Unit

abbrev Connector (σ : Type) := String → Act σ (Engine σ)

end RuntimeHandover.Container
