import NodeDeploy.Driver.Registry
import NodeDeploy.Store.Basic

/-! # The configuration of an intent

The configuration of an intent is the one it refers to; else, of the configurations in scope for its
provider, the one of its own name or the one named `default`; else one that leaves everything to the
provider. Nothing is merged.

* `resolveConfig` asks a store for it;
* `chooseConfig` is the choice among the configurations in scope.
-/

namespace NodeDeploy

def defaultConfigName : String := "default"

def configNamed? (configs : List NodeConfig) (provider name : String) : Option NodeConfig :=
  configs.find? fun c => c.metadata.displayName == name && c.spec.provider == provider

/-- The configuration that leaves everything to the provider. -/
def emptyConfig (scope provider : String) : NodeConfig where
  metadata := { name := some "", ns := some scope }
  spec := .ofProvider provider

def chooseConfig (configs : List NodeConfig) (scope provider name : String) : NodeConfig :=
  ((configNamed? configs provider name).or
    (configNamed? configs provider defaultConfigName)).getD (emptyConfig scope provider)

/-- The configuration of an intent. Configurations are in scope in a namespace of their own, if one
is given, and else in that of the intent. -/
def resolveConfig {σ : Type} (s : Store σ) (configNamespace : Option String) (provider : String)
    (i : NodeIntent) : Action σ Failure NodeConfig := do
  let key ← .ofExcept i.objectKey
  let scope := configNamespace.getD key.ns
  match i.spec.parametersRef with
  | some reference =>
    let key : ObjectKey := ⟨reference.ns.getD scope, reference.name⟩
    match ← (s.getConfig key).mapError .store with
    | some c => pure c
    | none => throw (.notFound ResourceKind.nodeConfig.kind key)
  | none =>
    let configs ← (s.listConfigs scope).mapError .store
    pure (chooseConfig configs scope provider key.name)

end NodeDeploy
