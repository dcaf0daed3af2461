import LaunchConfig.Schema.Key

/-!
The launch schema: every key that launching a cluster needs, in the order of listings.
-/
namespace LaunchConfig.Schema

/-- A key that is stored and never null. -/
def plain (category : Category) (key : String) (kind : KeyKind) (description : String) : KeySpec :=
  ⟨key, category, kind, false, false, description⟩

/-- A key that is stored and may be switched off. -/
def nullable (category : Category) (key : String) (kind : KeyKind) (description : String) :
    KeySpec :=
  ⟨key, category, kind, true, false, description⟩

/-- A key that is computed from others. -/
def derived (category : Category) (key : String) (kind : KeyKind) (description : String) :
    KeySpec :=
  ⟨key, category, kind, false, true, description⟩

def deploymentKeys : List KeySpec := [
  plain .deployment "EC2_LOCATION" .text "EC2 region",
  plain .deployment "UBUNTU_AMI" .text "stock Ubuntu machine image",
  plain .deployment "NIMBUS_AMI" .text "machine image with nimbus preinstalled",
  plain .deployment "KEY_NAME" .text "EC2 key-pair name",
  plain .deployment "SECURITY_GROUP" .text "EC2 security group",
  plain .deployment "CONTROLLER_INSTANCE_TYPE" .text "instance type of the controller",
  plain .deployment "WORKER_INSTANCE_TYPE" .text "instance type of the workers",
  nullable .deployment "PLACEMENT" .text "availability zone",
  nullable .deployment "PLACEMENT_GROUP" .text "cluster placement group",
  plain .deployment "PRIVATE_KEY_DIR" .text "directory holding the key-pair .pem file",
  derived .deployment "PRIVATE_KEY" .text "PRIVATE_KEY_DIR + KEY_NAME + .pem",
  plain .deployment "CONTROLLER_NUM" .count "number of controller instances",
  plain .deployment "WORKER_NUM" .count "number of worker instances",
  derived .deployment "INSTANCE_NUM" .count "CONTROLLER_NUM + WORKER_NUM"]

def controllerKeys : List KeySpec := [
  plain .controller "ASSIGNER_THREAD_NUM" .count "job assigner threads",
  plain .controller "BATCH_ASSIGN_NUM" .count "jobs assigned per batch",
  plain .controller "COMMAND_BATCH_SIZE" .count "commands sent per batch",
  plain .controller "DEACTIVATE_CONTROLLER_TEMPLATE" .boolean "disable controller templates",
  plain .controller "DEACTIVATE_COMPLEX_MEMOIZATION" .boolean "disable complex memoization",
  plain .controller "DEACTIVATE_BINDING_MEMOIZATION" .boolean "disable binding memoization",
  plain .controller "DEACTIVATE_WORKER_TEMPLATE" .boolean "disable worker templates",
  plain .controller "DEACTIVATE_MEGA_RCR_JOB" .boolean "disable mega RCR jobs",
  plain .controller "DEACTIVATE_DM_QUERY_CACHE" .boolean "disable data-manager query cache",
  plain .controller "ACTIVATE_LB" .boolean "enable load balancing",
  plain .controller "ACTIVATE_FT" .boolean "enable fault tolerance",
  plain .controller "LB_PERIOD" .duration "load-balancing period",
  plain .controller "FT_PERIOD" .duration "checkpoint period",
  plain .controller "FIRST_PORT" .count "first port of the cluster port range"]

def simulationKeys : List KeySpec := [
  plain .simulation "SIMULATION_SCALE" .count "grid cells per axis",
  plain .simulation "PART_X" .count "partitions along x",
  plain .simulation "PART_Y" .count "partitions along y",
  plain .simulation "PART_Z" .count "partitions along z",
  plain .simulation "PROJ_PART_X" .count "projection partitions along x",
  plain .simulation "PROJ_PART_Y" .count "projection partitions along y",
  plain .simulation "PROJ_PART_Z" .count "projection partitions along z",
  plain .simulation "FRAME_NUMBER" .count "frames to simulate",
  plain .simulation "OTHREAD_NUM" .count "worker execution threads",
  plain .simulation "ITERATION_BATCH" .count "projection iterations per batch",
  plain .simulation "MAX_ITERATION" .count "projection iteration cap",
  plain .simulation "NO_PROJ_BOTTLENECK" .boolean "skip the projection bottleneck job",
  plain .simulation "WRITE_PER_PART" .boolean "write output per partition",
  plain .simulation "RUN_WITH_TASKSET" .boolean "pin workers with taskset",
  plain .simulation "WORKER_TASKSET" .text "CPU list for taskset"]

def loggingKeys : List KeySpec := [
  plain .logging "STD_OUT_LOG" .text "launcher stdout log",
  plain .logging "LOAD_BALANCER_LOG" .text "controller load-balancer log",
  plain .logging "SCHED_PER_ITER_STAT_LOG" .text "controller per-iteration stats",
  plain .logging "WORKER_LB_LOG" .text "worker load-balancer log",
  plain .logging "WORKER_FINAL_STAT_LOG" .text "worker final timers",
  plain .logging "WORKER_PER_ITER_STAT_LOG" .text "worker per-iteration timers",
  plain .logging "OUTPUT_PATH" .text "directory for collected logs"]

def buildKeys : List KeySpec := [
  plain .build "SOURCE_NIMBUS_ROOT" .text "nimbus checkout on the launching host",
  plain .build "EC2_NIMBUS_ROOT" .text "nimbus checkout on the instances",
  plain .build "REL_APPLICATION_PATH" .text "application build dir, relative to root",
  plain .build "REL_SCHEDULER_PATH" .text "scheduler dir, relative to root",
  plain .build "REL_WORKER_PATH" .text "worker dir, relative to root",
  plain .build "NIMBUS_LIB" .text "nimbus shared library",
  plain .build "APPLICATION_LIB" .text "application shared library",
  plain .build "SCHEDULER_BINARY" .text "controller binary",
  plain .build "WORKER_BINARY" .text "worker binary"]

def table : List KeySpec :=
  deploymentKeys ++ controllerKeys ++ simulationKeys ++ loggingKeys ++ buildKeys

def lookup? (key : String) : Option KeySpec :=
  table.find? fun spec => spec.key = key

/-- The keys that every declaration has to provide. -/
def required : List KeySpec :=
  table.filter fun spec => !spec.derived

end LaunchConfig.Schema
