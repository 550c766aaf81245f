import NodeDeploy.Resource.VolumeClaim
import NodeDeploy.Workload.Owned

/-! # Claims of a node

A node claims storage for each of its persistent volumes, for one writer, under the name of the node
followed by that of the volume.
-/

namespace NodeDeploy

namespace NodeIntent

def volumeClaim (i : NodeIntent) (v : PersistentVolume) : Except Failure VolumeClaim := do
  let metadata ← i.ownedMetadata (partName i.metadata.displayName v.name)
  .ok {
    metadata
    spec := some {
      accessModes := some ["ReadWriteOnce"]
      resources := some ⟨none, some v.requests⟩ } }

def volumeClaims (i : NodeIntent) (spec : NodeConfigSpec) : Except Failure (List VolumeClaim) :=
  spec.persistentVolumes.mapM i.volumeClaim

end NodeIntent

end NodeDeploy
