import NodeDeploy.Resource.NodeConfig
import NodeDeploy.Resource.Volume

/-! # Containers

What runs in a pod: an image with its command, environment, resources, probes and mounts. The
members of the JSON form stand in the order of their names.
-/

namespace NodeDeploy

structure EnvVar where
  name : String
  value : Option String
  deriving DecidableEq, Repr, Inhabited

/-- A command that tells how a container fares, and when to run it. -/
structure Probe where
  command : Option (Option (List String))
  failureThreshold : Option Int
  initialDelaySeconds : Option Int
  periodSeconds : Option Int
  successThreshold : Option Int
  timeoutSeconds : Option Int
  deriving DecidableEq, Repr, Inhabited

structure SecurityContext where
  privileged : Option Bool
  runAsUser : Option Int
  deriving DecidableEq, Repr, Inhabited

structure Container where
  name : String
  image : Option String := none
  command : Option (List String) := none
  args : Option (List String) := none
  env : Option (List EnvVar) := none
  resources : Option Resources := none
  imagePullPolicy : Option String := none
  securityContext : Option SecurityContext := none
  stdin : Option Bool := none
  tty : Option Bool := none
  volumeMounts : Option (List VolumeMount) := none
  readinessProbe : Option Probe := none
  startupProbe : Option Probe := none
  livenessProbe : Option Probe := none
  deriving DecidableEq, Repr, Inhabited

namespace EnvVar

def toJson (e : EnvVar) : Json := .record [
  ("name", some (.str e.name)),
  ("value", e.value.map .str)]

def ofJson? (j : Json) : Option EnvVar := do
  let m ← j.readObject
  some {
    name := ← Json.lenient m "name" Json.readString ""
    value := ← Json.optional m "value" Json.readString }

end EnvVar

namespace Probe

def toJson (p : Probe) : Json := .record [
  ("exec", p.command.map fun c => .record [("command", c.map Json.strings)]),
  ("failureThreshold", p.failureThreshold.map .int),
  ("initialDelaySeconds", p.initialDelaySeconds.map .int),
  ("periodSeconds", p.periodSeconds.map .int),
  ("successThreshold", p.successThreshold.map .int),
  ("timeoutSeconds", p.timeoutSeconds.map .int)]

def commandOfJson? (j : Json) : Option (Option (List String)) := do
  let m ← j.readObject
  Json.optional m "command" (Json.readList Json.readString)

def ofJson? (j : Json) : Option Probe := do
  let m ← j.readObject
  some {
    command := ← Json.optional m "exec" commandOfJson?
    failureThreshold := ← Json.optional m "failureThreshold" Json.readInt32
    initialDelaySeconds := ← Json.optional m "initialDelaySeconds" Json.readInt32
    periodSeconds := ← Json.optional m "periodSeconds" Json.readInt32
    successThreshold := ← Json.optional m "successThreshold" Json.readInt32
    timeoutSeconds := ← Json.optional m "timeoutSeconds" Json.readInt32 }

end Probe

namespace SecurityContext

def toJson (s : SecurityContext) : Json := .record [
  ("privileged", s.privileged.map .bool),
  ("runAsUser", s.runAsUser.map .int)]

def ofJson? (j : Json) : Option SecurityContext := do
  let m ← j.readObject
  some {
    privileged := ← Json.optional m "privileged" Json.readBool
    runAsUser := ← Json.optional m "runAsUser" Json.readInt64 }

end SecurityContext

namespace Container

def mountNames (c : Container) : List String := (c.volumeMounts.getD []).map VolumeMount.name

def toJson (c : Container) : Json := .record [
  ("args", c.args.map Json.strings),
  ("command", c.command.map Json.strings),
  ("env", c.env.map fun l => .arr (l.map EnvVar.toJson)),
  ("image", c.image.map .str),
  ("imagePullPolicy", c.imagePullPolicy.map .str),
  ("livenessProbe", c.livenessProbe.map Probe.toJson),
  ("name", some (.str c.name)),
  ("readinessProbe", c.readinessProbe.map Probe.toJson),
  ("resources", c.resources.map Resources.toJson),
  ("securityContext", c.securityContext.map SecurityContext.toJson),
  ("startupProbe", c.startupProbe.map Probe.toJson),
  ("stdin", c.stdin.map .bool),
  ("tty", c.tty.map .bool),
  ("volumeMounts", c.volumeMounts.map fun l => .arr (l.map VolumeMount.toJson))]

def ofJson? (j : Json) : Option Container := do
  let m ← j.readObject
  some {
    name := ← Json.lenient m "name" Json.readString ""
    image := ← Json.optional m "image" Json.readString
    command := ← Json.optional m "command" (Json.readList Json.readString)
    args := ← Json.optional m "args" (Json.readList Json.readString)
    env := ← Json.optional m "env" (Json.readList EnvVar.ofJson?)
    resources := ← Json.optional m "resources" Resources.ofJson?
    imagePullPolicy := ← Json.optional m "imagePullPolicy" Json.readString
    securityContext := ← Json.optional m "securityContext" SecurityContext.ofJson?
    stdin := ← Json.optional m "stdin" Json.readBool
    tty := ← Json.optional m "tty" Json.readBool
    volumeMounts := ← Json.optional m "volumeMounts" (Json.readList VolumeMount.ofJson?)
    readinessProbe := ← Json.optional m "readinessProbe" Probe.ofJson?
    startupProbe := ← Json.optional m "startupProbe" Probe.ofJson?
    livenessProbe := ← Json.optional m "livenessProbe" Probe.ofJson? }

end Container

end NodeDeploy
