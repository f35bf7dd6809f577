import RuntimeHandover.Kubelet.Overrides

/-! Patching a live configuration: it is saved as it was before anything changes. -/
namespace RuntimeHandover.Kubelet

inductive PatchOutcome where
  | alreadyPatched (config : LiveConfig)
  | patched (config : LiveConfig) (engineEndpoint : String)

def patch {σ : Type} (save : LiveConfig → Act σ Unit) (live : LiveConfig) :
    Act σ PatchOutcome :=
  if live.isPatched then pure (.alreadyPatched live)
  else do
    save live
    let config := live.withOverrides
    let endpoint ← Act.ofExcept (engineEndpoint config)
    pure (.patched config endpoint)

end RuntimeHandover.Kubelet
