import NodeFit.Cluster.Metadata

/-!
# NodeFit.Cluster.NodeSchema

The schema of nodes.

Amounts of resources are texts to the schema (`Schema.labels`).  Whether a text is a quantity is
asked afterwards, and only for the resources that a node is known by.
-/

namespace NodeFit.Cluster.Schema

/-- Where a node takes its configuration from. -/
def nodeConfigSource : Schema :=
  object
    [("configMap",
      object
        [("kubeletConfigKey", text), ("name", text), ("namespace", text),
          ("resourceVersion", text), ("uid", text)])]

/-- What is asked of a node. -/
def nodeSpec : Schema :=
  object
    [("configSource", nodeConfigSource), ("externalID", text), ("podCIDR", text),
      ("podCIDRs", texts), ("providerID", text),
      ("taints",
        list (object [("effect", text), ("key", text), ("timeAdded", timestamp), ("value", text)])),
      ("unschedulable", bool)]

/-- What a node says about itself. -/
def nodeInfo : Schema :=
  object
    [("architecture", text), ("bootID", text), ("containerRuntimeVersion", text),
      ("kernelVersion", text), ("kubeProxyVersion", text), ("kubeletVersion", text),
      ("machineID", text), ("operatingSystem", text), ("osImage", text), ("systemUUID", text)]

def nodeStatus : Schema :=
  object
    [("addresses", list (object [("address", text), ("type", text)])), ("allocatable", labels),
      ("capacity", labels),
      ("conditions",
        list (object
          [("lastHeartbeatTime", timestamp), ("lastTransitionTime", timestamp),
            ("message", text), ("reason", text), ("status", text), ("type", text)])),
      ("config",
        object
          [("active", nodeConfigSource), ("assigned", nodeConfigSource), ("error", text),
            ("lastKnownGood", nodeConfigSource)]),
      ("daemonEndpoints", object [("kubeletEndpoint", object [("Port", int 32)])]),
      ("images", list (object [("names", texts), ("sizeBytes", int 64)])), ("nodeInfo", nodeInfo),
      ("phase", text), ("volumesAttached", list (object [("devicePath", text), ("name", text)])),
      ("volumesInUse", texts)]

def node : Schema :=
  object
    [("apiVersion", exactly "v1"), ("kind", exactly "Node"), ("metadata", metadata 122),
      ("spec", nodeSpec), ("status", nodeStatus)]

end NodeFit.Cluster.Schema
