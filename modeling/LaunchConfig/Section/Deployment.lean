import LaunchConfig.Json.Basic
import LaunchConfig.Store.Basic
import LaunchConfig.Validation

/-!
The section on machines: what they run, where they stand and how many there are.
-/
namespace LaunchConfig

/-- Machines of a cluster. -/
structure Deployment where
  region : String
  ubuntuImage : String
  nimbusImage : String
  keyName : String
  securityGroup : String
  controllerType : String
  workerType : String
  placement : Option String
  placementGroup : Option String
  privateKey : String
  controllers : UInt64
  workers : UInt64
  deriving DecidableEq, Repr, Inhabited

namespace Deployment

def ofStore (store : Store) : Except ConfigError Deployment := do
  let region ← store.get .text "EC2_LOCATION"
  let ubuntuImage ← store.get .text "UBUNTU_AMI"
  let nimbusImage ← store.get .text "NIMBUS_AMI"
  let keyName ← store.get .text "KEY_NAME"
  let securityGroup ← store.get .text "SECURITY_GROUP"
  let controllerType ← store.get .text "CONTROLLER_INSTANCE_TYPE"
  let workerType ← store.get .text "WORKER_INSTANCE_TYPE"
  let placement ← store.get (.optional .text) "PLACEMENT"
  let placementGroup ← store.get (.optional .text) "PLACEMENT_GROUP"
  let privateKey ← store.privateKeyPath
  let controllers ← store.get .u64 "CONTROLLER_NUM"
  let workers ← store.get .u64 "WORKER_NUM"
  return { region, ubuntuImage, nimbusImage, keyName, securityGroup, controllerType, workerType,
           placement, placementGroup, privateKey, controllers, workers }

/-- The number of all instances. -/
def instances (deployment : Deployment) : UInt64 :=
  deployment.controllers + deployment.workers

/-- A zone is named by its region and one more byte. -/
def isZoneOf (region zone : String) : Bool :=
  match Text.dropStart? region zone with
  | some mark => mark.utf8ByteSize = 1
  | none => false

/-- Checks the rules of the section, in the order of its fields. -/
def validate (deployment : Deployment) : Validation.Verdict := do
  Validation.region "deployment.region" deployment.region
  Validation.image "deployment.ubuntu_ami" deployment.ubuntuImage
  Validation.image "deployment.nimbus_ami" deployment.nimbusImage
  Validation.notEmpty "deployment.key_name" deployment.keyName
  Validation.notEmpty "deployment.security_group" deployment.securityGroup
  Validation.notEmpty "deployment.controller_instance_type" deployment.controllerType
  Validation.notEmpty "deployment.worker_instance_type" deployment.workerType
  Validation.notEmpty "deployment.private_key" deployment.privateKey
  match deployment.placement with
  | some zone =>
    Validation.ensure (isZoneOf deployment.region zone) (.notZone zone deployment.region)
  | none => .ok ()
  match deployment.placementGroup with
  | some group => Validation.notEmpty "deployment.placement_group" group
  | none => .ok ()

def fieldNames : List String :=
  ["region", "ubuntu_ami", "nimbus_ami", "key_name", "security_group", "controller_instance_type",
    "worker_instance_type", "placement", "placement_group", "private_key", "controller_num",
    "worker_num"]

def optionalText : Option String → Json
  | some held => .string held
  | none => .null

def toJson (deployment : Deployment) : Json :=
  .object [
    ("region", .string deployment.region),
    ("ubuntu_ami", .string deployment.ubuntuImage),
    ("nimbus_ami", .string deployment.nimbusImage),
    ("key_name", .string deployment.keyName),
    ("security_group", .string deployment.securityGroup),
    ("controller_instance_type", .string deployment.controllerType),
    ("worker_instance_type", .string deployment.workerType),
    ("placement", optionalText deployment.placement),
    ("placement_group", optionalText deployment.placementGroup),
    ("private_key", .string deployment.privateKey),
    ("controller_num", .integer deployment.controllers.toNat),
    ("worker_num", .integer deployment.workers.toNat)]

def ofJson? (json : Json) : Option Deployment := do
  let record ← json.record? fieldNames
  let region ← record.field? "region" Json.string?
  let ubuntuImage ← record.field? "ubuntu_ami" Json.string?
  let nimbusImage ← record.field? "nimbus_ami" Json.string?
  let keyName ← record.field? "key_name" Json.string?
  let securityGroup ← record.field? "security_group" Json.string?
  let controllerType ← record.field? "controller_instance_type" Json.string?
  let workerType ← record.field? "worker_instance_type" Json.string?
  let placement ← record.optional? "placement" Json.string?
  let placementGroup ← record.optional? "placement_group" Json.string?
  let privateKey ← record.field? "private_key" Json.string?
  let controllers ← record.field? "controller_num" Json.u64?
  let workers ← record.field? "worker_num" Json.u64?
  return { region, ubuntuImage, nimbusImage, keyName, securityGroup, controllerType, workerType,
           placement, placementGroup, privateKey, controllers, workers }

end Deployment

end LaunchConfig
