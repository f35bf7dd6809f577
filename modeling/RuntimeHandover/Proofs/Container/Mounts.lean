import RuntimeHandover.Bootstrap.Config
import RuntimeHandover.Kubelet.LiveConfig
import RuntimeHandover.Proofs.Container.CreateLine
import RuntimeHandover.Proofs.Text.Words

/-! The mounts of the proxy, read as they are written: a path of the host and a path in the
container, with a colon between. Neither a valid configuration nor the kubelet keeps colons out of
the paths of the host, and the socket of the engine may have no path at all. -/
namespace RuntimeHandover.Container
open Bootstrap Kubelet Text

def bindParts (bind : String) : List String :=
  (pieces (· == ':') bind.toList).map String.ofList

def Formed (bind : String) : Prop :=
  ∃ host container, bindParts bind = [host, container] ∧ host ≠ "" ∧ container ≠ ""

section parts

variable {host container : String}

private theorem pieces_plain {text : String} (plain : ':' ∉ text.toList) :
    pieces (· == ':') text.toList = [text.toList] := by
  apply pieces_single
  intro c inside
  exact beq_eq_false_iff_ne.mpr (fun same => plain (same ▸ inside))

private theorem bindParts_eq (plain : ':' ∉ container.toList) (host : String) :
    bindParts (host ++ ":" ++ container) = bindParts host ++ [container] := by
  have split : pieces (· == ':') (host.toList ++ ':' :: container.toList) =
      pieces (· == ':') host.toList ++ pieces (· == ':') container.toList := pieces_append rfl _ _
  unfold bindParts
  rw [pieces_plain plain] at split
  simp [String.toList_append, split]

private theorem bindParts_plain (plain : ':' ∉ host.toList) : bindParts host = [host] := by
  simp [bindParts, pieces_plain plain]

private theorem formed_iff (plain : ':' ∉ container.toList) (some_ : container ≠ "") :
    Formed (host ++ ":" ++ container) ↔ host ≠ "" ∧ ':' ∉ host.toList := by
  unfold Formed
  rw [bindParts_eq plain]
  constructor
  · rintro ⟨first, second, parts, named, -⟩
    have both : bindParts host ++ [container] = [first] ++ [second] := parts
    obtain ⟨single, -⟩ := List.append_inj' both rfl
    obtain ⟨letters, runs, rfl⟩ := List.map_eq_singleton_iff.mp single
    have whole := whole_of_pieces runs
    have clear : ':' ∉ host.toList := fun inside => absurd (whole ':' inside) (by decide)
    rw [pieces_plain clear] at runs
    obtain rfl := (List.singleton_inj.mp runs).symm
    exact ⟨by simpa using named, clear⟩
  · rintro ⟨named, clear⟩
    exact ⟨host, container, by rw [bindParts_plain clear]; rfl, named, some_⟩

end parts

/-- Any text may stand in a kubelet's configuration as the place of its engine. -/
private theorem exists_engineEndpoint (endpoint : String) :
    ∃ live, engineEndpoint live = .ok endpoint :=
  ⟨.ofMembers [("dockerEndpoint", .string endpoint)], rfl⟩

private theorem proxyPath_ne_empty {config : Config} (valid : config.validate = .ok ()) :
    config.proxyPath ≠ "" := by
  intro missing
  unfold Config.validate at valid
  rw [if_neg (by simp [Config.missing, missing])] at valid
  cases valid

/-- The binds of the proxy name two paths each exactly when the path of the proxy has no colon
and the socket of an engine on this host has a path without one. A valid configuration and the
place of an engine, which may be any text, keep out nothing of this but an empty path of the
proxy. Where the paths are clear of colons, the binds name the paths that were asked for. -/
theorem proxy_mounts (config : Config) (valid : config.validate = .ok ()) (endpoint : String)
    (suffix : Int) :
    let binds := (Spec.proxy endpoint config.proxyPath config.proxyArgs suffix).binds
    (∃ live, engineEndpoint live = .ok endpoint) ∧
    ((∀ bind ∈ binds, Formed bind) ↔
      ':' ∉ config.proxyPath.toList ∧
        ∀ socket, endpoint = "unix://" ++ socket → socket ≠ "" ∧ ':' ∉ socket.toList) ∧
    ((∀ bind ∈ binds, Formed bind) →
      binds.map bindParts = [["/run", "/run"], [config.proxyPath, "/criproxy"]] ++
        (afterStart? "unix://" endpoint).toList.map ([·, "/var/run/docker.sock"])) := by
  intro binds
  have shape : binds = ["/run:/run", config.proxyPath ++ ":" ++ "/criproxy"] ++
      (afterStart? "unix://" endpoint).toList.map (· ++ ":" ++ "/var/run/docker.sock") :=
    Spec.proxy_binds endpoint config.proxyPath config.proxyArgs suffix
  have run : Formed "/run:/run" := ⟨"/run", "/run", by decide, by decide, by decide⟩
  have proxy : Formed (config.proxyPath ++ ":" ++ "/criproxy") ↔ ':' ∉ config.proxyPath.toList :=
    (formed_iff (by decide) (by decide)).trans
      (and_iff_right (proxyPath_ne_empty valid))
  have engine (socket : String) : Formed (socket ++ ":" ++ "/var/run/docker.sock") ↔
      socket ≠ "" ∧ ':' ∉ socket.toList := formed_iff (by decide) (by decide)
  have fine : (∀ bind ∈ binds, Formed bind) ↔ ':' ∉ config.proxyPath.toList ∧
      ∀ socket, endpoint = "unix://" ++ socket → socket ≠ "" ∧ ':' ∉ socket.toList := by
    rw [shape, List.forall_mem_append, List.forall_mem_cons, List.forall_mem_singleton, proxy,
      List.forall_mem_map]
    simp [run, engine, ← afterStart?_eq_some]
  refine ⟨exists_engineEndpoint endpoint, fine, ?_⟩
  intro formed
  obtain ⟨clear, sockets⟩ := fine.mp formed
  have runParts : bindParts "/run:/run" = ["/run", "/run"] := by decide
  rw [shape, List.map_append, List.map_map, List.map_cons, List.map_singleton, runParts,
    bindParts_eq (by decide), bindParts_plain clear]
  refine congrArg _ (List.map_congr_left ?_)
  intro socket mounted
  have split := afterStart?_eq_some.mp (Option.mem_toList.mp mounted)
  have parted : bindParts (socket ++ ":" ++ "/var/run/docker.sock") =
      bindParts socket ++ ["/var/run/docker.sock"] := bindParts_eq (by decide) socket
  rw [bindParts_plain (sockets socket split).2] at parted
  exact parted

def placing (proxyPath : String) : Config where
  configzBaseUrl := "http://10.0.0.1"
  statsBaseUrl := "http://10.0.0.1"
  savedConfigPath := .ofString "/saved"
  proxyPath
  proxyArgs := []
  proxySocketPath := .ofString "/run/criproxy.sock"

theorem proxy_mounts_placing :
    (Spec.proxy "unix:///d" "/opt/criproxy" [] 1).binds.map bindParts =
      [["/run", "/run"], ["/opt/criproxy", "/criproxy"], ["/d", "/var/run/docker.sock"]] := by
  obtain ⟨-, formed, parts⟩ := proxy_mounts (placing "/opt/criproxy") (by decide) "unix:///d" 1
  refine parts (formed.mpr ⟨by decide, ?_⟩)
  intro socket split
  have whole : "unix://" ++ "/d" = "unix://" ++ socket := by
    rw [← split]
    decide
  rw [← (String.append_right_inj _).mp whole]
  decide

/-- The path `/opt/a:b` of a proxy makes a bind of three parts. The engine at `unix://` has a
socket without a path, so that its bind names no path of the host. -/
theorem proxy_mounts_unformed :
    (¬ ∀ (config : Config) (live : LiveConfig) (endpoint : String) (suffix : Int),
      config.validate = .ok () → engineEndpoint live = .ok endpoint →
      (∀ socket, endpoint ≠ "unix://" ++ socket) →
      ∀ bind ∈ (Spec.proxy endpoint config.proxyPath config.proxyArgs suffix).binds,
        Formed bind) ∧
    ¬ ∀ (config : Config) (live : LiveConfig) (endpoint : String) (suffix : Int),
      config.validate = .ok () → engineEndpoint live = .ok endpoint →
      ':' ∉ config.proxyPath.toList →
      ∀ bind ∈ (Spec.proxy endpoint config.proxyPath config.proxyArgs suffix).binds,
        Formed bind := by
  constructor
  · intro formed
    have elsewhere : ∀ socket, "tcp://e" ≠ "unix://" ++ socket := by
      intro socket same
      have first := congrArg (fun text => text.toList.head?) same
      simp at first
    have bind := formed (placing "/opt/a:b") (.ofMembers [("dockerEndpoint", .string "tcp://e")])
      "tcp://e" 1 (by decide) rfl elsewhere "/opt/a:b:/criproxy" (by decide)
    obtain ⟨host, container, parts, -⟩ := bind
    have cut : bindParts "/opt/a:b:/criproxy" = ["/opt/a", "b", "/criproxy"] := by decide
    rw [cut] at parts
    cases parts
  · intro formed
    have bind := formed (placing "/opt/criproxy")
      (.ofMembers [("dockerEndpoint", .string "unix://")]) "unix://" 1 (by decide) rfl (by decide)
      ":/var/run/docker.sock" (by decide)
    obtain ⟨host, container, parts, named, -⟩ := bind
    have cut : bindParts ":/var/run/docker.sock" = ["", "/var/run/docker.sock"] := by decide
    rw [cut] at parts
    cases parts
    exact named rfl

end RuntimeHandover.Container
