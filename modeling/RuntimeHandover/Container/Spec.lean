/-! What a container is made from, and the one that runs the proxy. -/
namespace RuntimeHandover.Container

def proxyImage : String := "busybox:1.26.2"

def markerLabel : String := "criproxy"

def mountedProxyPath : String := "/criproxy"
def mountedEngineSocket : String := "/var/run/docker.sock"
def engineHostVariable : String := "DOCKER_HOST"
def unixScheme : String := "unix://"

def runDirectory : String := "/run"

/-- `labels` in the order of their keys; a bind is `host:container`. -/
structure Spec where
  name : String
  image : String
  labels : List (String × String)
  env : List String
  cmd : List String
  binds : List String
  networkMode : String
  restartPolicy : String
  deriving DecidableEq, Repr

def afterStart? (start text : String) : Option String :=
  if start.toList.isPrefixOf text.toList then
    some (String.ofList (text.toList.drop start.toList.length))
  else none

namespace Spec

/-- The proxy in front of an engine. The socket of an engine on this host is
mounted, because the container sees none of the host's files. -/
def proxy (endpoint proxyPath : String) (args : List String) (suffix : Int) : Spec :=
  let socket? := afterStart? unixScheme endpoint
  let host := match socket? with
    | some _ => unixScheme ++ mountedEngineSocket
    | none => endpoint
  { name := s!"criproxy-{suffix}"
    image := proxyImage
    labels := [(markerLabel, "true")]
    env := [engineHostVariable ++ "=" ++ host]
    cmd := mountedProxyPath :: args
    binds := [runDirectory ++ ":" ++ runDirectory, proxyPath ++ ":" ++ mountedProxyPath] ++
      socket?.toList.map fun socket => socket ++ ":" ++ mountedEngineSocket
    networkMode := "host"
    restartPolicy := "always" }

def engineHost? (spec : Spec) : Option String :=
  spec.env.findSome? (afterStart? (engineHostVariable ++ "="))

end Spec

end RuntimeHandover.Container
