import NodeDeploy.Cluster.Request

/-! # Scripted clusters

A scripted cluster answers the n-th request with the n-th of its responses, keeps the requests, and
has nothing but an error to say once the script is over.
-/

namespace NodeDeploy

/-- The responses still to come, and the requests that were answered. -/
structure ClusterScript where
  responses : List Response
  requests : List Request := []

namespace ClusterScript

/-- The answer once the script is over. -/
def exhausted : Response := ⟨500, "no response scripted"⟩

def transport : Transport ClusterScript := fun r s =>
  (s.responses.headD exhausted, ⟨s.responses.tail, s.requests ++ [r]⟩)

end ClusterScript

end NodeDeploy
