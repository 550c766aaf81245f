import NodeDeploy.Bootstrap.Certificate
import NodeDeploy.Device.Session

/-! # Bootstrap scripts

A script is a list of steps, each a group of commands that go out in one mode. The script for the
management plane installs a certificate bundle as a profile, enables the management services under
it, and commits. Keys and certificates go out eagerly, since a device echoes long texts badly.

* `BootstrapScript.commands` lists the commands of a script with their modes, in order;
* `BootstrapScript.withLoginBanner` puts a banner just before the last step.
-/

namespace NodeDeploy

/-- Commands that go out in one mode. -/
structure ScriptStep where
  mode : SendMode
  commands : List String
  deriving DecidableEq, Repr, Inhabited

structure BootstrapScript where
  steps : List ScriptStep
  deriving DecidableEq, Repr, Inhabited

def certificateProfile : String := "k8s-profile"

namespace ScriptStep

/-- Commands that each wait for their echo. -/
def standard (commands : List String) : ScriptStep := ⟨.standard, commands⟩

/-- One command that does not wait for its echo. -/
def eager (command : String) : ScriptStep := ⟨.eager, [command]⟩

end ScriptStep

namespace BootstrapScript

def profileCommand (profile : String) : String := "set / system tls server-profile " ++ profile

def serviceCommands (profile : String) : List String := [
  "set / system lldp admin-state enable",
  "set / system gnmi-server admin-state enable",
  "set / system gnmi-server rate-limit 65000",
  "set / system gnmi-server trace-options [ common request response ]",
  "set / system gnmi-server network-instance mgmt admin-state enable",
  "set / system gnmi-server network-instance mgmt tls-profile " ++ profile,
  "set / system gnmi-server network-instance mgmt unix-socket admin-state enable",
  "set / system gribi-server admin-state enable",
  "set / system gribi-server network-instance mgmt admin-state enable",
  "set / system gribi-server network-instance mgmt tls-profile " ++ profile,
  "set / system json-rpc-server admin-state enable",
  "set / system json-rpc-server network-instance mgmt http admin-state enable",
  "set / system json-rpc-server network-instance mgmt https admin-state enable",
  "set / system json-rpc-server network-instance mgmt https tls-profile " ++ profile,
  "set / system p4rt-server admin-state enable",
  "set / system p4rt-server network-instance mgmt admin-state enable",
  "set / system p4rt-server network-instance mgmt tls-profile " ++ profile]

def managementPlane (b : CertificateBundle) : BootstrapScript :=
  let profile := profileCommand b.profile
  ⟨[
    .standard ["enter candidate private"],
    .standard [profile, profile ++ " authenticate-client false"],
    .eager (profile ++ " key \"" ++ b.key ++ "\""),
    .eager (profile ++ " certificate \"" ++ b.certificate ++ "\""),
    .eager (profile ++ " trust-anchor \"" ++ b.authority ++ "\""),
    .standard (serviceCommands b.profile),
    .standard ["commit save"]]⟩

def bannerStep (banner : String) : ScriptStep :=
  .eager ("set / system banner login-banner \"" ++ banner ++ "\"")

/-- The script with a banner just before its last step. -/
def withLoginBanner (s : BootstrapScript) (banner : String) : BootstrapScript :=
  ⟨s.steps.dropLast ++ bannerStep banner :: s.steps.getLast?.toList⟩

def commands (s : BootstrapScript) : List (SendMode × String) :=
  s.steps.flatMap fun step => step.commands.map fun command => (step.mode, command)

end BootstrapScript

end NodeDeploy
