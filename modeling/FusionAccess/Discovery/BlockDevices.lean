import FusionAccess.Kubernetes.Cluster
import Mathlib.Data.List.Infix

/-!
# Block devices of a node

The block devices as `lsblk` lists them, which of them are left out, and the
list of discovered devices that is made of the others.
-/

namespace Discovery

open Kubernetes

/-- The attributes of a block device. -/
structure DeviceAttributes where
  name : String := ""
  type : String := ""
  size : Int := 0
  pathByID : String := ""
  model : String := ""
  vendor : String := ""
  readOnly : Bool := false
  removable : Bool := false
  state : String := ""
  kName : String := ""
  fsType : String := ""
  partLabel : String := ""
  path : String := ""
  wwn : String := ""
  mountpoint : String := ""
  deriving DecidableEq

/-- `BlockDevice`: a block device and those that are built on it. -/
inductive BlockDevice
  | mk (attributes : DeviceAttributes) (children : List BlockDevice)

/-- The attributes of a device. -/
def BlockDevice.attributes : BlockDevice → DeviceAttributes
  | .mk attributes _ => attributes

/-- The devices that are built on a device. -/
def BlockDevice.children : BlockDevice → List BlockDevice
  | .mk _ children => children

/-! ## Devices that are left out -/

/-- `StateSuspended`. -/
def stateSuspended : String := "suspended"

/-- `supportedDeviceTypes`. -/
def supportedDeviceTypes : List String := ["mpath", "disk"]

/-- The file system of the legs of a multipath device. -/
def mpathMember : String := "mpath_member"

/-- `ToLower`, as far as the result consists of letters from A to Z. -/
def toLower (text : String) : List Char :=
  text.toList.map fun char => if char = 'İ' then 'i' else char.toLower

/-- The label of a partition contains "bios" or "boot" in any case. -/
def isBootLabel (partLabel : String) : Bool :=
  (toLower partLabel).tails.any fun rest =>
    "bios".toList.isPrefixOf rest || "boot".toList.isPrefixOf rest

/-- `BiosPartition`. -/
def BlockDevice.biosPartition (device : BlockDevice) : Bool :=
  device.children.any (fun child => isBootLabel child.attributes.partLabel) ||
    isBootLabel device.attributes.partLabel

/-- The checks of `ignoreDevices` on the device alone. -/
def isUnusable (device : BlockDevice) : Bool :=
  let attributes := device.attributes
  attributes.readOnly || attributes.state = stateSuspended ||
    attributes.type ∉ supportedDeviceTypes || attributes.removable ||
    device.biosPartition || attributes.mountpoint ≠ "" ||
    attributes.size = 0 || attributes.wwn = "" ||
    (attributes.fsType ≠ "" && attributes.fsType ≠ mpathMember)

mutual

/-- `ignoreDevices`. -/
def ignoreDevices : BlockDevice → Bool
  | .mk attributes children =>
      if isUnusable (.mk attributes children) then true
      else ignoreChildren children

/-- The loop of `ignoreDevices` over the children; the first grandchild
decides for all that come after it. -/
def ignoreChildren : List BlockDevice → Bool
  | [] => false
  | .mk attributes grandchildren :: children =>
      if attributes.type = "part" then true
      else if attributes.fsType ≠ "" then true
      else
        match grandchildren with
        | [] => ignoreChildren children
        | grandchild :: _ => ignoreDevices grandchild

end

/-! ## Discovered devices -/

/-- `GetDevPath`. -/
def BlockDevice.getDevPath (device : BlockDevice) : Except Failure String :=
  if device.attributes.fsType = mpathMember then
    match device.children with
    | child :: _ => .ok s!"/dev/{child.attributes.kName}"
    | [] => .error (errorf s!"no multipath members found {device.attributes.kName}")
  else .ok device.attributes.path

/-- `GetPathByID`. -/
def BlockDevice.getPathByID (device : BlockDevice) : Except Failure String :=
  if device.attributes.fsType = mpathMember then
    match device.children with
    | child :: _ => .ok s!"/dev/disk/by-id/{child.attributes.pathByID}"
    | [] => .error (errorf s!"no multipath members found {device.attributes.kName}")
  else if device.attributes.pathByID ≠ "" then
    .ok s!"/dev/disk/by-id/{device.attributes.pathByID}"
  else .error (errorf "disk has no persistent ID")

/-- `DiscoveredDeviceType`. -/
inductive DiscoveredDeviceType
  | disk
  | part
  | lvm
  | mpath
  | unknown
  deriving DecidableEq

/-- `parseDeviceType`. -/
def parseDeviceType (deviceType : String) : DiscoveredDeviceType :=
  if deviceType = "disk" then .disk
  else if deviceType = "part" then .part
  else if deviceType = "lvm" then .lvm
  else if deviceType = "mpath" then .mpath
  else .unknown

/-- A device as a daemon publishes it; the controller reads its path and its
WWN. -/
structure DiscoveredDevice extends Kubernetes.DiscoveredDevice where
  deviceID : String := ""
  model : String := ""
  type : DiscoveredDeviceType := .unknown
  vendor : String := ""
  size : Int := 0
  deriving DecidableEq

/-- `uniqueDevices`: of the devices with one WWN the last one takes the place
of the first. -/
def uniqueDevices (sample : List DiscoveredDevice) : List DiscoveredDevice :=
  sample.foldl (fun unique device =>
    Registry.upsert (fun other => other.wwn) device unique) []

/-- The entry of a block device; a name that cannot be told is left empty. -/
def discoveredDevice (device : BlockDevice) : DiscoveredDevice where
  path := device.getDevPath.toOption.getD ""
  wwn := device.attributes.wwn
  deviceID := device.getPathByID.toOption.getD ""
  model := device.attributes.model
  type := parseDeviceType device.attributes.type
  vendor := device.attributes.vendor
  size := device.attributes.size

/-- `getDiscoverdDevices`. -/
def getDiscoverdDevices (blockDevices : List BlockDevice) :
    List DiscoveredDevice :=
  uniqueDevices
    ((blockDevices.filter fun device => !ignoreDevices device).map discoveredDevice)

end Discovery
