import RuntimeHandover.Bootstrap.Config
import RuntimeHandover.Cluster.Access
import RuntimeHandover.Cluster.Record
import RuntimeHandover.Container.Install
import RuntimeHandover.Kubelet.Patch
import RuntimeHandover.Socket.Readiness

/-! One run of the handover: the live configuration is fetched, saved and patched,
the patched one is recorded in the cluster, the proxy is installed and its socket
waited for. The first stage that fails ends the run. -/
namespace RuntimeHandover.Bootstrap
open Cluster Container Files Kubelet Socket

structure Surroundings (σ : Type) where
  fetchLive : Introspection → String → Act σ LiveConfig
  save : Path → LiveConfig → Act σ Unit
  fetchNode : Introspection → String → Act σ NodeIdentity
  publish : Record → Act σ Unit
  connect : Connector σ
  stamp : StateM σ Int
  watch : Path → Watch σ

inductive Outcome where
  | alreadyConfigured
  | bootstrapped (container : String)
  | reinstalled (container : String)
  deriving DecidableEq, Repr

def Outcome.patched : Outcome → Bool
  | .bootstrapped _ => true
  | .alreadyConfigured | .reinstalled _ => false

variable {σ : Type}

def installAndWait (reach : Surroundings σ) (options : Options) (config : Config)
    (endpoint : String) : Act σ String := do
  let id ← install reach.connect reach.stamp endpoint config.proxyPath config.proxyArgs
  wait (reach.watch config.proxySocketPath) config.proxySocketPath options.readiness
  pure id

def verifyInstalled (reach : Surroundings σ) (options : Options) (config : Config)
    (live : LiveConfig) : Act σ Outcome := do
  if !options.verifyProxyLiveness then pure .alreadyConfigured
  else if ← ((reach.watch config.proxySocketPath).probe : StateM σ Bool) then
    pure .alreadyConfigured
  else
    let endpoint ← Act.ofExcept (engineEndpoint live)
    .reinstalled <$> installAndWait reach options config endpoint

def run (reach : Surroundings σ) (options : Options) (config : Config) : Act σ Outcome := do
  Act.ofExcept config.validate
  let live ← reach.fetchLive options.introspection config.configzBaseUrl
  match ← patch (reach.save config.savedConfigPath) live with
  | .alreadyPatched live => verifyInstalled reach options config live
  | .patched patched endpoint =>
    let node ← reach.fetchNode options.introspection config.statsBaseUrl
    reach.publish (Record.forNode node patched)
    .bootstrapped <$> installAndWait reach options config endpoint

def ensure (find : Act σ Access) (reach : Access → Surroundings σ) (options : Options)
    (config : Config) : Act σ Outcome := do
  Act.ofExcept config.validate
  let access ← find
  run (reach access) options config

end RuntimeHandover.Bootstrap
