import NodeDeploy.Digest.Sha256
import NodeDeploy.Json.Printer
import NodeDeploy.Resource.Pod

/-! # Revisions of a pod

A pod cannot be changed in what its driver sets, so a pod carries the digest of its specification,
and a pod whose digest differs from the wanted one has drifted.

* `PodSpec.revision` is the digest of the text of a specification;
* `Pod.revision_stamp`: a stamped pod carries the digest of its own specification.
-/

namespace NodeDeploy

def revisionAnnotation : String := "dcops.microscaler.io/revision-hash"

/-- The text of a specification that its revision is the digest of. -/
def PodSpec.text (s : PodSpec) : String := s.toJson.text

def PodSpec.revision (s : PodSpec) : String := Sha256.hex s.text

namespace Pod

/-- The specification, empty if the pod has none. -/
def specOrEmpty (p : Pod) : PodSpec := p.spec.getD ⟨[], none, none, none, none, none⟩

def revision? (p : Pod) : Option String := p.metadata.annotation? revisionAnnotation

def stamp (p : Pod) : Pod :=
  { p with metadata := p.metadata.annotate revisionAnnotation p.specOrEmpty.revision }

theorem revision_stamp (p : Pod) : p.stamp.revision? = some p.stamp.specOrEmpty.revision := by
  simp [stamp, revision?, Metadata.annotation?, Metadata.annotate, specOrEmpty]

end Pod

end NodeDeploy
