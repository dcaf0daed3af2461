import LaunchConfig.CommandLine.Supplied

/-!
Texts about the use of the program.
-/
namespace LaunchConfig.CommandLine

/-- The commands and options, as they are listed for people. -/
def helpText : String := "\n".intercalate [
  "nimbus 仿真集群启动配置查看工具",
  "",
  "Usage: nimbus-config [OPTIONS] <COMMAND>",
  "",
  "Commands:",
  "  show      显示完整配置",
  "  get       读取单个配置项",
  "  validate  验证配置",
  "  profiles  列出可用配置档案",
  "  help      Print this message or the help of the given subcommand(s)",
  "",
  "Options:",
  "  -p, --profile <NAME>       配置档案，可重复指定，按顺序叠加",
  "  -o, --overlay <FILE>       TOML 覆盖文件，在档案之后按顺序应用",
  "      --env-overrides        读取 NIMBUS_<KEY> 环境变量覆盖",
  "  -l, --log-level <LEVEL>    日志级别 [default: warn] [possible values: trace, debug, info, warn, error]",
  "      --log-format <FORMAT>  日志格式 [default: compact] [possible values: json, pretty, compact]",
  "  -h, --help                 Print help",
  "  -V, --version              Print version"]

namespace UsageFault

def message : UsageFault → String
  | help | helpOnMissing => helpText
  | version => "version"
  | missingCommand => "error: a command is required"
  | missingArgument => "error: a required argument is missing"
  | unknownArgument => "error: unexpected argument"
  | unknownCommand => "error: unrecognized command"
  | invalidValue => "error: invalid value"
  | tooManyValues => "error: unexpected value"
  | conflict => "error: an argument cannot be used multiple times"

end UsageFault

end LaunchConfig.CommandLine
