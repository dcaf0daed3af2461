import LaunchConfig.CommandLine.Report

/-!
The program: it collects what a command may read, runs the command, and prints its report.
-/
namespace LaunchConfig.CommandLine

/-- Why the system gave no bytes of a file. -/
def fileFault : IO.Error → FileFault
  | .noFileOrDirectory .. => .missing
  | .permissionDenied .. => .denied
  | .inappropriateType _ code _ => if code = 20 then .notDirectory else .directory
  | error => .stated error.toString

def readFile (path : String) : IO (Except FileFault ByteArray) := do
  match ← (IO.FS.readBinFile path).toBaseIO with
  | .ok bytes => return .ok bytes
  | .error error => return .error (fileFault error)

def readVariable? (cs : List Char) : Option (String × String) :=
  (Text.cut? '=' cs).map fun (name, text) => (String.ofList name, String.ofList text)

def readVariables : IO (List (String × String)) := do
  match ← readFile "/proc/self/environ" with
  | .ok bytes =>
    let listed := (String.fromUTF8? bytes).getD ""
    return (Text.parts '\x00' listed.toList).filterMap readVariable?
  | .error _ => return []

def surroundings (invocation : Invocation) : IO Surroundings := do
  let contents ← invocation.overlays.mapM fun path => do
    let content ← readFile path
    return (path, content)
  let environment ← readVariables
  return ⟨fun path => (contents.lookup path).getD (.error .missing), environment⟩

def print (format : LogFormat) (report : Report) : IO UInt32 := do
  for event in report.logged do
    IO.eprintln (event.line format)
  IO.print report.output
  if !report.complaint.isEmpty then IO.eprintln report.complaint
  return UInt32.ofNat report.status

def launch (words : List String) : IO UInt32 := do
  match Invocation.ofWords words with
  | .error fault => print .compact (Report.ofFault fault)
  | .ok invocation =>
    let available ← surroundings invocation
    print invocation.logFormat (invocation.run available)

end LaunchConfig.CommandLine

/-- Runs the command line that the program was started with, and gives its exit status. -/
def main (words : List String) : IO UInt32 :=
  LaunchConfig.CommandLine.launch words
