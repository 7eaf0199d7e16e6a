import NodeFit.Cluster.Schema

/-!
# NodeFit.Cluster.Metadata

The schemas that objects of several kinds share: metadata and label selectors.

The fields that a manager left (`managedFields`) may hold anything; how deep they may nest depends
on how far from the top of the payload the object stands, so that the depth is a parameter.
-/

namespace NodeFit.Cluster.Schema

/-- A manager of fields, with the fields as it left them. -/
def managedFields (depth : Nat) : Schema :=
  object
    [("apiVersion", text), ("fieldsType", text), ("fieldsV1", any depth), ("manager", text),
      ("operation", text), ("subresource", text), ("time", timestamp)]

def ownerReference : Schema :=
  object
    [("apiVersion", text), ("blockOwnerDeletion", bool), ("controller", bool), ("kind", text),
      ("name", text), ("uid", text)]

/-- The metadata of an object, whose managed fields may nest as deep as given. -/
def metadata (depth : Nat) : Schema :=
  object
    [("annotations", labels), ("creationTimestamp", timestamp),
      ("deletionGracePeriodSeconds", int 64), ("deletionTimestamp", timestamp),
      ("finalizers", texts), ("generateName", text), ("generation", int 64), ("labels", labels),
      ("managedFields", list (managedFields depth)), ("name", text), ("namespace", text),
      ("ownerReferences", list ownerReference), ("resourceVersion", text), ("selfLink", text),
      ("uid", text)]

def labelSelector : Schema :=
  object
    [("matchExpressions",
        list (object [("key", text), ("operator", text), ("values", texts)])),
      ("matchLabels", labels)]

end NodeFit.Cluster.Schema
