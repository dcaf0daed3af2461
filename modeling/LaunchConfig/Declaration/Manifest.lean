import LaunchConfig.Declaration.Basic

/-!
The launch manifest: a value for every key that is not derived, as they are for a cluster in
Oregon.
-/
namespace LaunchConfig.Declaration

def manifestDeployment : List (String × Value) := [
  ("EC2_LOCATION", .text "us-west-2"),
  ("UBUNTU_AMI", .text "ami-fa9cf1ca"),
  ("NIMBUS_AMI", .text "ami-1f868b2f"),
  ("KEY_NAME", .text "omidm-sing-key-pair-us-west-2"),
  ("SECURITY_GROUP", .text "nimbus_sg_uswest2"),
  ("CONTROLLER_INSTANCE_TYPE", .text "c3.4xlarge"),
  ("WORKER_INSTANCE_TYPE", .text "c3.2xlarge"),
  ("PLACEMENT", .text "us-west-2c"),
  ("PLACEMENT_GROUP", .text "nimbus-cluster"),
  ("PRIVATE_KEY_DIR", .text "/home/omidm/.ssh/"),
  ("CONTROLLER_NUM", .integer 0),
  ("WORKER_NUM", .integer 0)]

def manifestController : List (String × Value) := [
  ("ASSIGNER_THREAD_NUM", .integer 8),
  ("BATCH_ASSIGN_NUM", .integer 200),
  ("COMMAND_BATCH_SIZE", .integer 10000),
  ("DEACTIVATE_CONTROLLER_TEMPLATE", .boolean false),
  ("DEACTIVATE_COMPLEX_MEMOIZATION", .boolean false),
  ("DEACTIVATE_BINDING_MEMOIZATION", .boolean false),
  ("DEACTIVATE_WORKER_TEMPLATE", .boolean false),
  ("DEACTIVATE_MEGA_RCR_JOB", .boolean false),
  ("DEACTIVATE_DM_QUERY_CACHE", .boolean false),
  ("ACTIVATE_LB", .boolean false),
  ("ACTIVATE_FT", .boolean false),
  ("LB_PERIOD", .seconds 60),
  ("FT_PERIOD", .seconds 600),
  ("FIRST_PORT", .integer 5800)]

def manifestSimulation : List (String × Value) := [
  ("SIMULATION_SCALE", .integer 1024),
  ("PART_X", .integer 8),
  ("PART_Y", .integer 8),
  ("PART_Z", .integer 8),
  ("PROJ_PART_X", .integer 8),
  ("PROJ_PART_Y", .integer 8),
  ("PROJ_PART_Z", .integer 8),
  ("FRAME_NUMBER", .integer 1),
  ("OTHREAD_NUM", .integer 8),
  ("ITERATION_BATCH", .integer 1),
  ("MAX_ITERATION", .integer 100),
  ("NO_PROJ_BOTTLENECK", .boolean false),
  ("WRITE_PER_PART", .boolean true),
  ("RUN_WITH_TASKSET", .boolean false),
  ("WORKER_TASKSET", .text "0-3,8-11")]

def manifestLogging : List (String × Value) := [
  ("STD_OUT_LOG", .text "ec2_log.txt"),
  ("LOAD_BALANCER_LOG", .text "load_balancer_log"),
  ("SCHED_PER_ITER_STAT_LOG", .text "controller_stats.txt"),
  ("WORKER_LB_LOG", .text "lb_log.txt"),
  ("WORKER_FINAL_STAT_LOG", .text "time_per_thread.txt"),
  ("WORKER_PER_ITER_STAT_LOG", .text "main_timers.txt"),
  ("OUTPUT_PATH", .text "output/")]

def manifestBuild : List (String × Value) := [
  ("SOURCE_NIMBUS_ROOT", .text "~/cloud/src/nimbus/"),
  ("EC2_NIMBUS_ROOT", .text "~/cloud/src/nimbus/"),
  ("REL_APPLICATION_PATH", .text "application/water_multiple/Build/Release/"),
  ("REL_SCHEDULER_PATH", .text "test/scheduler_v3/"),
  ("REL_WORKER_PATH", .text "test/water_multiple/"),
  ("NIMBUS_LIB", .text "libnimbus.so"),
  ("APPLICATION_LIB", .text "libwater_app.so"),
  ("SCHEDULER_BINARY", .text "scheduler"),
  ("WORKER_BINARY", .text "worker")]

/-- The launch manifest. -/
def manifest : Declaration :=
  ⟨manifestDeployment ++ manifestController ++ manifestSimulation ++ manifestLogging
    ++ manifestBuild⟩

end LaunchConfig.Declaration
