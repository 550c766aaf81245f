import NodeDeploy.Action
import NodeDeploy.Resource.NetworkAttachment
import NodeDeploy.Resource.NodeConfig
import NodeDeploy.Resource.NodeIntent
import NodeDeploy.Resource.Pod
import NodeDeploy.Resource.Secret
import NodeDeploy.Resource.VolumeClaim
import NodeDeploy.Store.Error

/-! # Stores

A store holds the intents and configurations of nodes, runs their pods and keeps their secrets. A
`Store σ` is all that the engine may rely on: actions on a state `σ` of any kind.

* `Store.within` lets a store of a part of a state work on the whole.
-/

namespace NodeDeploy

structure Store (σ : Type) where
  getIntent : ObjectKey → Action σ StoreError (Option NodeIntent)
  /-- Records the status of an intent. -/
  updateStatus : NodeIntent → Action σ StoreError Unit
  addFinalizer : NodeIntent → String → Action σ StoreError Unit
  removeFinalizer : NodeIntent → String → Action σ StoreError Unit
  getConfig : ObjectKey → Action σ StoreError (Option NodeConfig)
  /-- The configurations of a namespace. -/
  listConfigs : String → Action σ StoreError (List NodeConfig)
  /-- Creates or changes an attachment; whether anything was written. -/
  applyAttachment : NetworkAttachment → Action σ StoreError Bool
  /-- Creates a claim that does not exist; whether it was created. -/
  applyClaim : VolumeClaim → Action σ StoreError Bool
  getPod : ObjectKey → Action σ StoreError (Option Pod)
  createPod : Pod → Action σ StoreError Unit
  /-- Deletes a pod, if it exists. -/
  deletePod : ObjectKey → Action σ StoreError Unit
  getSecret : ObjectKey → Action σ StoreError (Option Secret)

namespace Store

variable {σ τ : Type}

/-- The store of a part of a state as a store of the whole. -/
def within (get : σ → τ) (set : τ → σ → σ) (s : Store τ) : Store σ where
  getIntent k := (s.getIntent k).within get set
  updateStatus i := (s.updateStatus i).within get set
  addFinalizer i f := (s.addFinalizer i f).within get set
  removeFinalizer i f := (s.removeFinalizer i f).within get set
  getConfig k := (s.getConfig k).within get set
  listConfigs ns := (s.listConfigs ns).within get set
  applyAttachment a := (s.applyAttachment a).within get set
  applyClaim c := (s.applyClaim c).within get set
  getPod k := (s.getPod k).within get set
  createPod p := (s.createPod p).within get set
  deletePod k := (s.deletePod k).within get set
  getSecret k := (s.getSecret k).within get set

end Store

end NodeDeploy
