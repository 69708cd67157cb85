import PodWorkspace.Document.Shape
import PodWorkspace.Files
import PodWorkspace.Json.Record
import PodWorkspace.Log.Logged
import PodWorkspace.Options.Basic
import PodWorkspace.Yaml.Reader

/-! Where the API server is and which namespace to work in. A kubeconfig file names servers, users
and contexts, which join them; several files count as one, in which the first that says something
wins. A namespace of the options wins over that of the context. -/

namespace PodWorkspace.Server

abbrev Environment := String → Option String

/-- A context: the names of a server and a user, and the namespace to work in. -/
structure KubeContext where
  cluster : String
  user : Option String := none
  «namespace» : Option String := none
  deriving DecidableEq, Repr

/-- What kubeconfig files say, with what is kept under each name. -/
structure Kubeconfig where
  kind : Option String := none
  apiVersion : Option String := none
  /-- The addresses of the servers. -/
  clusters : List (String × Option (Option String)) := []
  /-- The users, of which only the names count here. -/
  users : List (String × Option Unit) := []
  contexts : List (String × Option KubeContext) := []
  currentContext : Option String := none
  deriving DecidableEq, Repr

/-- Why kubeconfig files do not lead to a server. -/
inductive KubeconfigFault where
  | unreadable (path : String) (fault : FileFault)
  | malformed
  | noHome
  | mixedKinds
  | noContextChosen
  | unknownContext (name : String)
  | unknownCluster (name : String)
  | unknownUser (name : String)
  | noServer
  | badServer (address : String)
  deriving DecidableEq, Repr

def KubeconfigFault.message : KubeconfigFault → String
  | .unreadable path fault => s!"failed to read kubeconfig from '{path}': {fault.message}"
  | .malformed => "failed to parse kubeconfig YAML"
  | .noHome => "failed to find the path of the kubeconfig"
  | .mixedKinds => "mixing kinds or versions is not supported"
  | .noContextChosen => "failed to determine current context"
  | .unknownContext name => s!"failed to load current context: {name}"
  | .unknownCluster name => s!"failed to load the cluster of context: {name}"
  | .unknownUser name => s!"failed to find the user of context: {name}"
  | .noServer => "cluster url is missing on selected cluster"
  | .badServer address => s!"failed to parse cluster url: {address}"

namespace Kubeconfig

def listOrNull? {α : Type} (read : Json → Option α) : Json → Option (List α)
  | .null => some []
  | v => Json.list? read v

/-- The record that an object gives for fields; a list never gives one here. -/
def record? (names : List String) : Json → Option Json.Record
  | .object members => Json.recordOfMembers? (names.map .plain) members
  | _ => none

def value? {α : Type} (r : Json.Record) (name : String) (read : Json → Option α) :
    Option (Option α) :=
  r.withDefault? name (Json.optional? read) none

def checks? (r : Json.Record) (texts switches : List String) : Option Unit := do
  let _ ← texts.mapM fun name => value? r name Json.text?
  let _ ← switches.mapM fun name => value? r name Json.bool?

/-- The members of a cluster that are texts, beside its server. -/
def clusterTexts : List String :=
  ["certificate-authority", "certificate-authority-data", "proxy-url", "tls-server-name"]

def clusterSwitches : List String := ["insecure-skip-tls-verify", "disable-compression"]

def cluster? (v : Json) : Option (Option String) := do
  let r ← record? ("server" :: clusterTexts ++ clusterSwitches) v
  checks? r clusterTexts clusterSwitches
  value? r "server" Json.text?

def userTexts : List String :=
  ["username", "password", "token", "tokenFile", "client-certificate", "client-certificate-data",
    "client-key", "client-key-data", "as"]

/-- A user, which has to be a record. -/
def user? (v : Json) : Option Unit := do
  let r ← record? (userTexts ++ ["as-groups", "auth-provider", "exec"]) v
  checks? r userTexts []
  let _ ← value? r "as-groups" (Json.list? Json.text?)

def context? (v : Json) : Option KubeContext := do
  let r ← record? ["cluster", "user", "namespace", "extensions"] v
  return {
    cluster := ← r.required? "cluster" Json.text?
    user := ← value? r "user" Json.text?
    «namespace» := ← value? r "namespace" Json.text? }

/-- Something with its name, which is kept in a member. -/
def named? {α : Type} (member : String) (read : Json → Option α) (v : Json) :
    Option (String × Option α) := do
  let r ← record? ["name", member] v
  return (← r.required? "name" Json.text?, ← value? r member read)

def ofJson? : Json → Option Kubeconfig
  | .null => some {}
  | v => do
    let r ← record? ["preferences", "clusters", "users", "contexts", "current-context",
      "extensions", "kind", "apiVersion"] v
    return {
      kind := ← value? r "kind" Json.text?
      apiVersion := ← value? r "apiVersion" Json.text?
      clusters := ← r.withDefault? "clusters" (listOrNull? (named? "cluster" cluster?)) []
      users := ← r.withDefault? "users" (listOrNull? (named? "user" user?)) []
      contexts := ← r.withDefault? "contexts" (listOrNull? (named? "context" context?)) []
      currentContext := ← value? r "current-context" Json.text? }

/-- Entries and those of `more` whose names are new. -/
def withNew {α : Type} (entries more : List (String × α)) : List (String × α) :=
  entries ++ more.filter fun e => !(entries.any fun f => f.1 == e.1)

/-- Whether two texts, where both are given, are equal. -/
def agree (a b : Option String) : Bool := a.isNone || b.isNone || a == b

def merge (k next : Kubeconfig) : Except KubeconfigFault Kubeconfig :=
  if agree k.kind next.kind && agree k.apiVersion next.apiVersion then .ok {
    kind := k.kind.or next.kind
    apiVersion := k.apiVersion.or next.apiVersion
    clusters := withNew k.clusters next.clusters
    users := withNew k.users next.users
    contexts := withNew k.contexts next.contexts
    currentContext := k.currentContext.or next.currentContext }
  else .error .mixedKinds

/-- What a text says, all of whose documents count as one. -/
def parse (raw : String) : Except KubeconfigFault Kubeconfig :=
  match (Yaml.readAll? raw).bind fun ds => ds.mapM fun d => ofJson? d.toJson with
  | some ks => ks.foldlM merge {}
  | none => .error .malformed

def readFile (files : Files) (path : String) : Except KubeconfigFault Kubeconfig :=
  match files path with
  | .ok raw => parse raw
  | .error fault => .error (.unreadable path fault)

/-- The files that `KUBECONFIG` lists, or the one in the home directory. -/
def paths (env : Environment) : Except KubeconfigFault (List String) :=
  match (Text.split ':' ((env "KUBECONFIG").getD "")).filter fun p => !p.isEmpty with
  | [] =>
    match (env "HOME").filter fun h => !h.isEmpty with
    | some home => .ok [if home.endsWith "/" then home ++ ".kube/config" else home ++ "/.kube/config"]
    | none => .error .noHome
  | listed => .ok listed

def ofEnvironment (files : Files) (env : Environment) : Except KubeconfigFault Kubeconfig := do
  (← paths env).foldlM (fun k path => do k.merge (← readFile files path)) {}

def kept? {α : Type} (entries : List (String × Option α)) (name : String) : Option α :=
  (entries.lookup name).join

/-- The visible characters that an address never holds. -/
def notInAddresses : List Char := ['"', '<', '>', '\\', '^', '\x60', '{', '|', '}']

/-- Whether a text can be the address of a server. -/
def isServerAddress (s : String) : Bool :=
  s != "" && s.toList.all fun c => 0x21 ≤ c.toNat && !(notInAddresses.contains c)

/-- The context with a name, or the one that the files choose. -/
def context (k : Kubeconfig) (name : Option String) : Except KubeconfigFault KubeContext := do
  let name ← match name.or k.currentContext with
    | some name => .ok name
    | none => .error .noContextChosen
  let context ← match kept? k.contexts name with
    | some context => .ok context
    | none => .error (.unknownContext name)
  let server ← match kept? k.clusters context.cluster with
    | some server => .ok server
    | none => .error (.unknownCluster context.cluster)
  match context.user with
  | some user => if (kept? k.users user).isNone then .error (.unknownUser user) else .ok ()
  | none => .ok ()
  match server with
  | none => .error .noServer
  | some address => if isServerAddress address then .ok context else .error (.badServer address)

end Kubeconfig

def defaultNamespace : String := "default"

def selectContext (files : Files) (env : Environment) (c : Connection) :
    Except Failure KubeContext :=
  let labelled {α : Type} (option what : String) (x : Except KubeconfigFault α) : Except Failure α :=
    x.mapError fun fault => .configuration option s!"{what}: {fault.message}"
  match c.kubeconfig, c.context with
  | some path, name => do
    let k ← labelled "KUBERNETES_CONFIG" s!"failed to read kubeconfig {path}"
      (Kubeconfig.readFile files path)
    labelled "KUBERNETES_CONFIG" "failed to load kubeconfig" (k.context name)
  | none, some name =>
    labelled "KUBERNETES_CONTEXT" "failed to load kubeconfig context"
      (Kubeconfig.ofEnvironment files env >>= fun k => k.context (some name))
  | none, none =>
    labelled "KUBERNETES_CONFIG" "failed to infer config"
      (Kubeconfig.ofEnvironment files env >>= fun k => k.context none)

def connect (files : Files) (env : Environment) (c : Connection) : Logged String := do
  let context ← .ofExcept (selectContext files env c)
  let ns := c.namespace.getD (context.namespace.getD defaultNamespace)
  .log ⟨.debug, "Use Kubernetes namespace", [("namespace", ns)]⟩
  return ns

end PodWorkspace.Server
