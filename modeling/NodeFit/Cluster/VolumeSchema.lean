import NodeFit.Cluster.Metadata

/-!
# NodeFit.Cluster.VolumeSchema

The schema of the volumes of pods.

A volume has a field for each kind of volume there is, of which at most one is given in practice.
The schema does not ask for that: each field that is there has to conform.
-/

namespace NodeFit.Cluster.Schema

def nameReference : Schema := object [("name", text)]

/-- A field of an object. -/
def fieldReference : Schema := object [("apiVersion", text), ("fieldPath", text)]

/-- An amount of a container's resources. -/
def resourceFieldReference : Schema :=
  object [("containerName", text), ("divisor", text), ("resource", text)]

/-- The resources that are claimed, limited and requested. -/
def resourceRequirements : Schema :=
  object [("claims", list nameReference), ("limits", labels), ("requests", labels)]

/-- Keys that become files. -/
def keyFiles : Schema := list (object [("key", text), ("mode", int 32), ("path", text)])

/-- Fields that become files. -/
def fieldFiles : Schema :=
  list (object
    [("fieldRef", fieldReference), ("mode", int 32), ("path", text),
      ("resourceFieldRef", resourceFieldReference)])

/-- An object of some group of interfaces. -/
def typedReference : List (String × Schema) :=
  [("apiGroup", text), ("kind", text), ("name", text)]

def volumeClaim : Schema :=
  object
    [("accessModes", texts), ("dataSource", object typedReference),
      ("dataSourceRef", object (("namespace", text) :: typedReference)),
      ("resources", resourceRequirements), ("selector", labelSelector),
      ("storageClassName", text), ("volumeMode", text), ("volumeName", text)]

/-- A volume made from several sources. -/
def projectedSource : Schema :=
  object
    [("configMap", object [("items", keyFiles), ("name", text), ("optional", bool)]),
      ("downwardAPI", object [("items", fieldFiles)]),
      ("secret", object [("items", keyFiles), ("name", text), ("optional", bool)]),
      ("serviceAccountToken",
        object [("audience", text), ("expirationSeconds", int 64), ("path", text)])]

/-- The kinds of volume, A to F. -/
def volumeKindsAToF : List (String × Schema) :=
  [("awsElasticBlockStore",
      object [("fsType", text), ("partition", int 32), ("readOnly", bool), ("volumeID", text)]),
    ("azureDisk",
      object
        [("cachingMode", text), ("diskName", text), ("diskURI", text), ("fsType", text),
          ("kind", text), ("readOnly", bool)]),
    ("azureFile", object [("readOnly", bool), ("secretName", text), ("shareName", text)]),
    ("cephfs",
      object
        [("monitors", texts), ("path", text), ("readOnly", bool), ("secretFile", text),
          ("secretRef", nameReference), ("user", text)]),
    ("cinder",
      object
        [("fsType", text), ("readOnly", bool), ("secretRef", nameReference), ("volumeID", text)]),
    ("configMap",
      object [("defaultMode", int 32), ("items", keyFiles), ("name", text), ("optional", bool)]),
    ("csi",
      object
        [("driver", text), ("fsType", text), ("nodePublishSecretRef", nameReference),
          ("readOnly", bool), ("volumeAttributes", labels)]),
    ("downwardAPI", object [("defaultMode", int 32), ("items", fieldFiles)]),
    ("emptyDir", object [("medium", text), ("sizeLimit", text)]),
    ("ephemeral",
      object
        [("volumeClaimTemplate", object [("metadata", metadata 115), ("spec", volumeClaim)])]),
    ("fc",
      object
        [("fsType", text), ("lun", int 32), ("readOnly", bool), ("targetWWNs", texts),
          ("wwids", texts)]),
    ("flexVolume",
      object
        [("driver", text), ("fsType", text), ("options", labels), ("readOnly", bool),
          ("secretRef", nameReference)]),
    ("flocker", object [("datasetName", text), ("datasetUUID", text)])]

/-- The kinds of volume, G to Z. -/
def volumeKindsGToZ : List (String × Schema) :=
  [("gcePersistentDisk",
      object [("fsType", text), ("partition", int 32), ("pdName", text), ("readOnly", bool)]),
    ("gitRepo", object [("directory", text), ("repository", text), ("revision", text)]),
    ("glusterfs", object [("endpoints", text), ("path", text), ("readOnly", bool)]),
    ("hostPath", object [("path", text), ("type", text)]),
    ("iscsi",
      object
        [("chapAuthDiscovery", bool), ("chapAuthSession", bool), ("fsType", text),
          ("initiatorName", text), ("iqn", text), ("iscsiInterface", text), ("lun", int 32),
          ("portals", texts), ("readOnly", bool), ("secretRef", nameReference),
          ("targetPortal", text)]),
    ("nfs", object [("path", text), ("readOnly", bool), ("server", text)]),
    ("persistentVolumeClaim", object [("claimName", text), ("readOnly", bool)]),
    ("photonPersistentDisk", object [("fsType", text), ("pdID", text)]),
    ("portworxVolume", object [("fsType", text), ("readOnly", bool), ("volumeID", text)]),
    ("projected", object [("defaultMode", int 32), ("sources", list projectedSource)]),
    ("quobyte",
      object
        [("group", text), ("readOnly", bool), ("registry", text), ("tenant", text),
          ("user", text), ("volume", text)]),
    ("rbd",
      object
        [("fsType", text), ("image", text), ("keyring", text), ("monitors", texts),
          ("pool", text), ("readOnly", bool), ("secretRef", nameReference), ("user", text)]),
    ("scaleIO",
      object
        [("fsType", text), ("gateway", text), ("protectionDomain", text), ("readOnly", bool),
          ("secretRef", nameReference), ("sslEnabled", bool), ("storageMode", text),
          ("storagePool", text), ("system", text), ("volumeName", text)]),
    ("secret",
      object
        [("defaultMode", int 32), ("items", keyFiles), ("optional", bool), ("secretName", text)]),
    ("storageos",
      object
        [("fsType", text), ("readOnly", bool), ("secretRef", nameReference),
          ("volumeName", text), ("volumeNamespace", text)]),
    ("vsphereVolume",
      object
        [("fsType", text), ("storagePolicyID", text), ("storagePolicyName", text),
          ("volumePath", text)])]

def volume : Schema := object (("name", text) :: volumeKindsAToF ++ volumeKindsGToZ)

end NodeFit.Cluster.Schema
