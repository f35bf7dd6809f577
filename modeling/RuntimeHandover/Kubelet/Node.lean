import RuntimeHandover.Failure

/-! The node a kubelet runs on, by the name it gives itself. -/
namespace RuntimeHandover.Kubelet

structure NodeIdentity where
  name : String
  nonempty : name ≠ ""

def NodeIdentity.ofName (name : String) : Except Failure NodeIdentity :=
  if nonempty : name ≠ "" then .ok ⟨name, nonempty⟩
  else .error ⟨.missingField, "node name is empty"⟩

end RuntimeHandover.Kubelet
