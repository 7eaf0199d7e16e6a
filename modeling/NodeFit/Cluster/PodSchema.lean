import NodeFit.Cluster.VolumeSchema

/-!
# NodeFit.Cluster.PodSchema

The schema of what is asked of pods.

Containers, probes, affinities and the rest are as deep as a deployment goes.  None of it is used by
a check, but a value of the wrong kind anywhere in it refuses the list of deployments.
-/

namespace NodeFit.Cluster.Schema

/-! ## Security -/

/-- Labels of a security module. -/
def securityLabels : Schema :=
  object [("level", text), ("role", text), ("type", text), ("user", text)]

/-- A profile of allowed system calls. -/
def securityProfile : Schema := object [("localhostProfile", text), ("type", text)]

/-- Options of another operating system. -/
def accountOptions : Schema :=
  object
    [("gmsaCredentialSpec", text), ("gmsaCredentialSpecName", text), ("hostProcess", bool),
      ("runAsUserName", text)]

/-- The rights of a container. -/
def securityContext : Schema :=
  object
    [("allowPrivilegeEscalation", bool),
      ("capabilities", object [("add", texts), ("drop", texts)]), ("privileged", bool),
      ("procMount", text), ("readOnlyRootFilesystem", bool), ("runAsGroup", int 64),
      ("runAsNonRoot", bool), ("runAsUser", int 64), ("seLinuxOptions", securityLabels),
      ("seccompProfile", securityProfile), ("windowsOptions", accountOptions)]

/-- The rights of all containers of a pod. -/
def podSecurityContext : Schema :=
  object
    [("fsGroup", int 64), ("fsGroupChangePolicy", text), ("runAsGroup", int 64),
      ("runAsNonRoot", bool), ("runAsUser", int 64), ("seLinuxOptions", securityLabels),
      ("seccompProfile", securityProfile), ("supplementalGroups", list (int 64)),
      ("sysctls", list (object [("name", text), ("value", text)])),
      ("windowsOptions", accountOptions)]

/-! ## Containers -/

def execAction : Schema := object [("command", texts)]

/-- A request for a page. -/
def requestAction : Schema :=
  object
    [("host", text), ("httpHeaders", list (object [("name", text), ("value", text)])),
      ("path", text), ("port", intOrText), ("scheme", text)]

/-- A connection. -/
def connectAction : Schema := object [("host", text), ("port", intOrText)]

/-- What is done at an event in the life of a container. -/
def lifecycleHandler : Schema :=
  object [("exec", execAction), ("httpGet", requestAction), ("tcpSocket", connectAction)]

/-- A test of a container. -/
def probe : Schema :=
  object
    [("exec", execAction), ("failureThreshold", int 32),
      ("grpc", object [("port", int 32), ("service", text)]), ("httpGet", requestAction),
      ("initialDelaySeconds", int 32), ("periodSeconds", int 32), ("successThreshold", int 32),
      ("tcpSocket", connectAction), ("terminationGracePeriodSeconds", int 64),
      ("timeoutSeconds", int 32)]

/-- A key of another object. -/
def keyReference : Schema := object [("key", text), ("name", text), ("optional", bool)]

def environmentVariable : Schema :=
  object
    [("name", text), ("value", text),
      ("valueFrom",
        object
          [("configMapKeyRef", keyReference), ("fieldRef", fieldReference),
            ("resourceFieldRef", resourceFieldReference), ("secretKeyRef", keyReference)])]

def containerFields : List (String × Schema) :=
  let optionalReference := object [("name", text), ("optional", bool)]
  [("args", texts), ("command", texts), ("env", list environmentVariable),
    ("envFrom",
      list (object
        [("configMapRef", optionalReference), ("prefix", text),
          ("secretRef", optionalReference)])),
    ("image", text), ("imagePullPolicy", text),
    ("lifecycle", object [("postStart", lifecycleHandler), ("preStop", lifecycleHandler)]),
    ("livenessProbe", probe), ("name", text),
    ("ports",
      list (object
        [("containerPort", int 32), ("hostIP", text), ("hostPort", int 32), ("name", text),
          ("protocol", text)])),
    ("readinessProbe", probe),
    ("resizePolicy", list (object [("resourceName", text), ("restartPolicy", text)])),
    ("resources", resourceRequirements), ("restartPolicy", text),
    ("securityContext", securityContext), ("startupProbe", probe), ("stdin", bool),
    ("stdinOnce", bool), ("terminationMessagePath", text), ("terminationMessagePolicy", text),
    ("tty", bool), ("volumeDevices", list (object [("devicePath", text), ("name", text)])),
    ("volumeMounts",
      list (object
        [("mountPath", text), ("mountPropagation", text), ("name", text), ("readOnly", bool),
          ("subPath", text), ("subPathExpr", text)])),
    ("workingDir", text)]

def container : Schema := object containerFields

/-- A container added to a running pod. -/
def ephemeralContainer : Schema := object (("targetContainerName", text) :: containerFields)

/-! ## Placement -/

/-- Conditions on nodes. -/
def nodeSelectorTerm : Schema :=
  let requirements := list (object [("key", text), ("operator", text), ("values", texts)])
  object [("matchExpressions", requirements), ("matchFields", requirements)]

/-- Conditions on other pods. -/
def podAffinityTerm : Schema :=
  object
    [("labelSelector", labelSelector), ("namespaceSelector", labelSelector),
      ("namespaces", texts), ("topologyKey", text)]

def podAffinity : Schema :=
  object
    [("preferredDuringSchedulingIgnoredDuringExecution",
        list (object [("podAffinityTerm", podAffinityTerm), ("weight", int 32)])),
      ("requiredDuringSchedulingIgnoredDuringExecution", list podAffinityTerm)]

/-- All conditions on the place of a pod. -/
def affinity : Schema :=
  object
    [("nodeAffinity",
        object
          [("preferredDuringSchedulingIgnoredDuringExecution",
              list (object [("preference", nodeSelectorTerm), ("weight", int 32)])),
            ("requiredDuringSchedulingIgnoredDuringExecution",
              object [("nodeSelectorTerms", list nodeSelectorTerm)])]),
      ("podAffinity", podAffinity), ("podAntiAffinity", podAffinity)]

/-- A bound on how unevenly pods are spread. -/
def topologySpreadConstraint : Schema :=
  object
    [("labelSelector", labelSelector), ("matchLabelKeys", texts), ("maxSkew", int 32),
      ("minDomains", int 32), ("nodeAffinityPolicy", text), ("nodeTaintsPolicy", text),
      ("topologyKey", text), ("whenUnsatisfiable", text)]

/-! ## Pods -/

/-- What is asked of a pod. -/
def podSpec : Schema :=
  object
    [("activeDeadlineSeconds", int 64), ("affinity", affinity),
      ("automountServiceAccountToken", bool), ("containers", list container),
      ("dnsConfig",
        object
          [("nameservers", texts),
            ("options", list (object [("name", text), ("value", text)])), ("searches", texts)]),
      ("dnsPolicy", text), ("enableServiceLinks", bool),
      ("ephemeralContainers", list ephemeralContainer),
      ("hostAliases", list (object [("hostnames", texts), ("ip", text)])), ("hostIPC", bool),
      ("hostNetwork", bool), ("hostPID", bool), ("hostUsers", bool), ("hostname", text),
      ("imagePullSecrets", list nameReference), ("initContainers", list container),
      ("nodeName", text), ("nodeSelector", labels), ("os", nameReference), ("overhead", labels),
      ("preemptionPolicy", text), ("priority", int 32), ("priorityClassName", text),
      ("readinessGates", list (object [("conditionType", text)])),
      ("resourceClaims",
        list (object
          [("name", text),
            ("source",
              object [("resourceClaimName", text), ("resourceClaimTemplateName", text)])])),
      ("restartPolicy", text), ("runtimeClassName", text), ("schedulerName", text),
      ("schedulingGates", list nameReference), ("securityContext", podSecurityContext),
      ("serviceAccount", text), ("serviceAccountName", text), ("setHostnameAsFQDN", bool),
      ("shareProcessNamespace", bool), ("subdomain", text),
      ("terminationGracePeriodSeconds", int 64),
      ("tolerations",
        list (object
          [("effect", text), ("key", text), ("operator", text), ("tolerationSeconds", int 64),
            ("value", text)])),
      ("topologySpreadConstraints", list topologySpreadConstraint), ("volumes", list volume)]

end NodeFit.Cluster.Schema
