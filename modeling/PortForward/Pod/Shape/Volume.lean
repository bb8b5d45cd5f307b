/-
# The shape of volumes

Where the volumes of a pod come from. A volume has a name and one source; here it may have any of
them.
-/
import PortForward.Pod.Shape.Container

namespace PortForward.Shape

/-! ## Files from objects -/

/-- Keys of a map of texts that become files. -/
def keyFiles : Shape := .list (part "KeyToPath" [("key", .text), ("mode", int32), ("path", .text)])

/-- Members of the pod that become files. -/
def downwardFiles : Shape := .list (part "DownwardAPIVolumeFile" [
  ("fieldRef", memberSelector), ("mode", int32), ("path", .text),
  ("resourceFieldRef", resourceSelector)])

/-- A map of texts that becomes files. -/
def keyProjection (name : String) : Shape := part name [
  ("items", keyFiles), ("name", .text), ("optional", .flag)]

/-- One of several sources of files in one volume. -/
def projection : Shape := part "VolumeProjection" [
  ("clusterTrustBundle", part "ClusterTrustBundleProjection" [
    ("labelSelector", labelSelector), ("name", .text), ("optional", .flag), ("path", .text),
    ("signerName", .text)]),
  ("configMap", keyProjection "ConfigMapProjection"),
  ("downwardAPI", part "DownwardAPIProjection" [("items", downwardFiles)]),
  ("podCertificate", part "PodCertificateProjection" [
    ("certificateChainPath", .text), ("credentialBundlePath", .text), ("keyPath", .text),
    ("keyType", .text), ("maxExpirationSeconds", int32), ("signerName", .text),
    ("userAnnotations", labels)]),
  ("secret", keyProjection "SecretProjection"),
  ("serviceAccountToken", part "ServiceAccountTokenProjection" [
    ("audience", .text), ("expirationSeconds", int64), ("path", .text)])]

/-! ## Claims -/

/-- What a new claim asks for. -/
def claimSpec : Shape := part "PersistentVolumeClaimSpec" [
  ("accessModes", texts),
  ("dataSource", part "TypedLocalObjectReference" [
    ("apiGroup", .text), ("kind", .text), ("name", .text)]),
  ("dataSourceRef", part "TypedObjectReference" [
    ("apiGroup", .text), ("kind", .text), ("name", .text), ("namespace", .text)]),
  ("resources", part "VolumeResourceRequirements" [
    ("limits", quantities), ("requests", quantities)]),
  ("selector", labelSelector), ("storageClassName", .text), ("volumeAttributesClassName", .text),
  ("volumeMode", .text), ("volumeName", .text)]

/-- A volume that lives as long as its pod. -/
def ephemeralVolume : Shape := part "EphemeralVolumeSource" [
  ("volumeClaimTemplate", part "PersistentVolumeClaimTemplate" [
    ("metadata", metadata), ("spec", claimSpec)])]

/-! ## Stores -/

/-- Volumes of clouds. -/
def cloudSources : List (String × Shape) := [
  ("awsElasticBlockStore", part "AWSElasticBlockStoreVolumeSource" [
    ("fsType", .text), ("partition", int32), ("readOnly", .flag), ("volumeID", .text)]),
  ("azureDisk", part "AzureDiskVolumeSource" [
    ("cachingMode", .text), ("diskName", .text), ("diskURI", .text), ("fsType", .text),
    ("kind", .text), ("readOnly", .flag)]),
  ("azureFile", part "AzureFileVolumeSource" [
    ("readOnly", .flag), ("secretName", .text), ("shareName", .text)]),
  ("cinder", part "CinderVolumeSource" [
    ("fsType", .text), ("readOnly", .flag), ("secretRef", localReference), ("volumeID", .text)]),
  ("gcePersistentDisk", part "GCEPersistentDiskVolumeSource" [
    ("fsType", .text), ("partition", int32), ("pdName", .text), ("readOnly", .flag)]),
  ("photonPersistentDisk", part "PhotonPersistentDiskVolumeSource" [
    ("fsType", .text), ("pdID", .text)]),
  ("vsphereVolume", part "VsphereVirtualDiskVolumeSource" [
    ("fsType", .text), ("storagePolicyID", .text), ("storagePolicyName", .text),
    ("volumePath", .text)])]

/-- Volumes that are reached over a network. -/
def networkSources : List (String × Shape) := [
  ("cephfs", part "CephFSVolumeSource" [
    ("monitors", texts), ("path", .text), ("readOnly", .flag), ("secretFile", .text),
    ("secretRef", localReference), ("user", .text)]),
  ("fc", part "FCVolumeSource" [
    ("fsType", .text), ("lun", int32), ("readOnly", .flag), ("targetWWNs", texts),
    ("wwids", texts)]),
  ("flocker", part "FlockerVolumeSource" [("datasetName", .text), ("datasetUUID", .text)]),
  ("glusterfs", part "GlusterfsVolumeSource" [
    ("endpoints", .text), ("path", .text), ("readOnly", .flag)]),
  ("iscsi", part "ISCSIVolumeSource" [
    ("chapAuthDiscovery", .flag), ("chapAuthSession", .flag), ("fsType", .text),
    ("initiatorName", .text), ("iqn", .text), ("iscsiInterface", .text), ("lun", int32),
    ("portals", texts), ("readOnly", .flag), ("secretRef", localReference),
    ("targetPortal", .text)]),
  ("nfs", part "NFSVolumeSource" [("path", .text), ("readOnly", .flag), ("server", .text)]),
  ("portworxVolume", part "PortworxVolumeSource" [
    ("fsType", .text), ("readOnly", .flag), ("volumeID", .text)]),
  ("quobyte", part "QuobyteVolumeSource" [
    ("group", .text), ("readOnly", .flag), ("registry", .text), ("tenant", .text), ("user", .text),
    ("volume", .text)]),
  ("rbd", part "RBDVolumeSource" [
    ("fsType", .text), ("image", .text), ("keyring", .text), ("monitors", texts), ("pool", .text),
    ("readOnly", .flag), ("secretRef", localReference), ("user", .text)]),
  ("scaleIO", part "ScaleIOVolumeSource" [
    ("fsType", .text), ("gateway", .text), ("protectionDomain", .text), ("readOnly", .flag),
    ("secretRef", localReference), ("sslEnabled", .flag), ("storageMode", .text),
    ("storagePool", .text), ("system", .text), ("volumeName", .text)]),
  ("storageos", part "StorageOSVolumeSource" [
    ("fsType", .text), ("readOnly", .flag), ("secretRef", localReference), ("volumeName", .text),
    ("volumeNamespace", .text)])]

/-- Volumes that come from the cluster, from the node or from a driver. -/
def clusterSources : List (String × Shape) := [
  ("configMap", part "ConfigMapVolumeSource" [
    ("defaultMode", int32), ("items", keyFiles), ("name", .text), ("optional", .flag)]),
  ("csi", part "CSIVolumeSource" [
    ("driver", .text), ("fsType", .text), ("nodePublishSecretRef", localReference),
    ("readOnly", .flag), ("volumeAttributes", labels)]),
  ("downwardAPI", part "DownwardAPIVolumeSource" [
    ("defaultMode", int32), ("items", downwardFiles)]),
  ("emptyDir", part "EmptyDirVolumeSource" [("medium", .text), ("sizeLimit", quantity)]),
  ("ephemeral", ephemeralVolume),
  ("flexVolume", part "FlexVolumeSource" [
    ("driver", .text), ("fsType", .text), ("options", labels), ("readOnly", .flag),
    ("secretRef", localReference)]),
  ("gitRepo", part "GitRepoVolumeSource" [
    ("directory", .text), ("repository", .text), ("revision", .text)]),
  ("hostPath", part "HostPathVolumeSource" [("path", .text), ("type", .text)]),
  ("image", part "ImageVolumeSource" [("pullPolicy", .text), ("reference", .text)]),
  ("persistentVolumeClaim", part "PersistentVolumeClaimVolumeSource" [
    ("claimName", .text), ("readOnly", .flag)]),
  ("projected", part "ProjectedVolumeSource" [
    ("defaultMode", int32), ("sources", .list projection)]),
  ("secret", part "SecretVolumeSource" [
    ("defaultMode", int32), ("items", keyFiles), ("optional", .flag), ("secretName", .text)])]

/-- A volume. -/
def volume : Shape :=
  part "Volume" (("name", .text) :: cloudSources ++ networkSources ++ clusterSources)

end PortForward.Shape
