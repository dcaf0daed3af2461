import LaunchConfig.Declaration.Basic
import LaunchConfig.Error

/-!
Profiles: named declarations that adapt the launch manifest to a place or a layout. A registry
holds the profiles to choose from, one for each name.
-/
namespace LaunchConfig

structure Profile where
  name : String
  description : String
  overrides : Declaration
  deriving DecidableEq, Repr

namespace Profile

/-- The profile whose settings the launch manifest has. -/
def defaultName : String := "us-west-2"

/-- Oregon, which changes nothing. -/
def oregon : Profile := ⟨defaultName, "US West (Oregon)", .empty⟩

/-- Northern California, which has no placement. -/
def california : Profile where
  name := "us-west-1"
  description := "US West (Northern California)"
  overrides := ⟨[
    ("EC2_LOCATION", .text "us-west-1"),
    ("NIMBUS_AMI", .text "ami-50201815"),
    ("UBUNTU_AMI", .text "ami-660c3023"),
    ("KEY_NAME", .text "omidm-sing-key-pair-us-west-1"),
    ("SECURITY_GROUP", .text "nimbus_sg_uswest1"),
    ("CONTROLLER_INSTANCE_TYPE", .text "c3.xlarge"),
    ("WORKER_INSTANCE_TYPE", .text "c3.xlarge"),
    ("PLACEMENT", .null),
    ("PLACEMENT_GROUP", .null)]⟩

def physbamLayout : Profile where
  name := "physbam-layout"
  description := "worker binaries from a PhysBAM checkout"
  overrides := ⟨[
    ("EC2_NIMBUS_ROOT", .text "~/physbam/"),
    ("REL_WORKER_PATH", .text "Projects/Water/")]⟩

def legacyImage : Profile where
  name := "legacy-ami"
  description := "previous nimbus image in us-west-2"
  overrides := ⟨[("NIMBUS_AMI", .text "ami-9996aea9")]⟩

end Profile

structure Registry where
  profiles : KeyMap Profile

namespace Registry

def empty : Registry := ⟨.empty⟩

/-- Adds a profile, in place of the one that has its name. -/
def add (registry : Registry) (profile : Profile) : Registry :=
  ⟨registry.profiles.insert profile.name profile⟩

def standard : Registry :=
  [Profile.oregon, Profile.california, Profile.physbamLayout, Profile.legacyImage].foldl add empty

def get (registry : Registry) (name : String) : Except ConfigError Profile :=
  match registry.profiles.get? name with
  | some profile => .ok profile
  | none => .error (.unknownProfile name)

def names (registry : Registry) : List String :=
  registry.profiles.keys

/-- The profiles with the given names, in the given order. -/
def select (registry : Registry) (names : List String) : Except ConfigError (List Profile) :=
  names.mapM registry.get

end Registry

end LaunchConfig
