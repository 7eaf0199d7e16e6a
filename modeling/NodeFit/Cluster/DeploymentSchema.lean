import NodeFit.Cluster.PodSchema

/-!
# NodeFit.Cluster.DeploymentSchema

The schema of deployments.

A deployment is looked for by name only, but it is read with all the fields that its kind has: one
of them that does not conform is an error for the whole list.  Its template is that of a pod, which
is why the schemas of pods and of their volumes are needed here.
-/

namespace NodeFit.Cluster.Schema

/-- What is asked of a deployment. -/
def deploymentSpec : Schema :=
  object
    [("minReadySeconds", int 32), ("paused", bool), ("progressDeadlineSeconds", int 32),
      ("replicas", int 32), ("revisionHistoryLimit", int 32), ("selector", labelSelector),
      ("strategy",
        object
          [("rollingUpdate", object [("maxSurge", intOrText), ("maxUnavailable", intOrText)]),
            ("type", text)]),
      ("template", object [("metadata", metadata 120), ("spec", podSpec)])]

def deploymentStatus : Schema :=
  object
    [("availableReplicas", int 32), ("collisionCount", int 32),
      ("conditions",
        list (object
          [("lastTransitionTime", timestamp), ("lastUpdateTime", timestamp), ("message", text),
            ("reason", text), ("status", text), ("type", text)])),
      ("observedGeneration", int 64), ("readyReplicas", int 32), ("replicas", int 32),
      ("unavailableReplicas", int 32), ("updatedReplicas", int 32)]

def deployment : Schema :=
  object
    [("apiVersion", exactly "apps/v1"), ("kind", exactly "Deployment"),
      ("metadata", metadata 122), ("spec", deploymentSpec), ("status", deploymentStatus)]

end NodeFit.Cluster.Schema
