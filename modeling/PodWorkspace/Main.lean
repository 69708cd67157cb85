import PodWorkspace.CommandLine.Output
import PodWorkspace.Log.Filter

/-! The process: it reads the arguments, the environment and the files that an invocation may look
at, does what is asked for and reports it. It has no transport to an API server, which therefore
counts as unreachable, and starts no programs. -/

namespace PodWorkspace.CommandLine

open Server

def Invocation.paths (i : Invocation) (m : Machine) : List String :=
  ["kubernetes-config", "pod-manifest-template", "arch-detection-pod-manifest-template"].filterMap
      i.filled? ++
    m.credentials.path ::
    (match Kubeconfig.paths m.env with
      | .ok paths => paths
      | .error _ => [])

def usageText : String :=
  "Usage: pod-workspace [--debug <DEBUG>] <COMMAND> [--<FLAG> <VALUE>]...\n\nCommands:\n" ++
    String.join (Command.all.map fun c => s!"  {c.name}\n")

def versionText : String := "pod-workspace 0.1.0\n"

def readFile (path : String) : IO (Except FileFault String) := do
  try
    return .ok (← IO.FS.readFile path)
  catch
    | .noFileOrDirectory .. => return .error .missing
    | .permissionDenied .. => return .error .denied
    | _ => return .error .isDirectory

def readFiles (paths : List String) : IO Files := do
  let entries ← paths.mapM fun path => do return (path, ← readFile path)
  return fun path => (entries.lookup path).getD (.error .missing)

def readEnvironment : IO Environment := do
  let names := ["HOME", "KUBECONFIG", "DOCKER_CONFIG", "RUST_LOG"] ++
    (Command.all.flatMap Command.flags).map (·.envName)
  let entries ← names.filterMapM fun name => do return (← IO.getEnv name).map fun v => (name, v)
  return fun name => entries.lookup name

def randomSuffix : IO String := do
  let letters := "abcdefghijklmnopqrstuvwxyz0123456789".toList
  let chosen ← (List.range 6).mapM fun _ => do return letters[← IO.rand 0 35]?.getD 'a'
  return String.ofList chosen

def tell (filter : Filter) (e : Event) : IO Unit := do
  if filter.shows e then IO.eprintln e.line

/-- Runs a program without a connection. -/
def runOffline {α : Type} (filter : Filter) : Talk α → IO (Except Failure α)
  | .done a => return .ok a
  | .fail f => return .error f
  | .cutOff => return .error (.cancelled "operation")
  | .log e rest => do
    tell filter e
    runOffline filter rest
  | .clock k => do runOffline filter (k ⟨← IO.monoNanosNow⟩)
  | .sleep _ till k => do
    let now ← IO.monoNanosNow
    IO.sleep (UInt32.ofNat ((till.nanos - now) / 1000000))
    runOffline filter (k true)
  | .call _ (.exchange _) k => runOffline filter (k (some (.ok (.error .unreachable))))
  | .call _ (.openSession ..) k => runOffline filter (k (some (.ok (.error .unreachable))))

def Invocation.execute (i : Invocation) (env : Environment) : IO UInt32 := do
  let filter := Filter.ofSetting (env "RUST_LOG") i.isDebugging
  let bare : Machine := {
    files := fun _ => .error .missing
    env
    runHelper := fun _ _ => .notStarted FileFault.missing.message
    stdin := some ""
    suffix := ← randomSuffix }
  let machine := { bare with files := ← readFiles (i.paths bare) }
  let result ← runOffline filter (i.perform machine)
  let output := match result with
    | .ok output => output
    | .error f => { ended := .error f }
  IO.print output.stdout
  IO.eprint output.stderr
  if let .error f := output.ended then tell filter (closingEvent f)
  return UInt32.ofNat ((exitCode output.ended).emod 256).toNat

def UsageNotice.execute (n : UsageNotice) : IO UInt32 := do
  match n with
  | .helpWanted => IO.print usageText
  | .versionWanted => IO.print versionText
  | _ => IO.eprint usageText
  return UInt32.ofNat n.exitCode

end PodWorkspace.CommandLine

open PodWorkspace.CommandLine in
def main (args : List String) : IO UInt32 := do
  let env ← readEnvironment
  match Invocation.parse env args with
  | .ok i => i.execute env
  | .error n => n.execute
