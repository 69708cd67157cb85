import PodWorkspace.Text.Split

/-! Registries by the host that serves them: whatever the spelling of an address, registries with
the same host are the same, and all names of Docker Hub stand for one host. -/

namespace PodWorkspace.Registry

def hubHost : String := "index.docker.io"

def hubAliases : List String := ["docker.io", "registry-1.docker.io", "hub.docker.com"]

/-- An address without its scheme. -/
def withoutScheme (address : String) : String :=
  (Text.stripFront "https://" address).getD ((Text.stripFront "http://" address).getD address)

/-- The host of a registry's address, in lower case. -/
def host (address : String) : String :=
  let h := Text.lowerAscii (Text.before '/' (withoutScheme address))
  if hubAliases.contains h then hubHost else h

end PodWorkspace.Registry
