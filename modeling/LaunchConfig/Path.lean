/-!
Paths as plain texts. Joining puts one text after the other and changes neither of them.
-/
namespace LaunchConfig.Path

def separator : Char := '/'

def isAbsolute (path : List Char) : Bool :=
  path.head? = some separator

/-- What has to be put between a directory and a path below it. -/
def gap (directory : List Char) : List Char :=
  if directory.isEmpty || directory.getLast? = some separator then [] else [separator]

/-- A path seen from a directory. An absolute path does not depend on the directory. -/
def joinChars (directory path : List Char) : List Char :=
  if isAbsolute path then path else directory ++ gap directory ++ path

def join (directory path : String) : String :=
  String.ofList (joinChars directory.toList path.toList)

theorem join_of_absolute {path : String} (absolute : isAbsolute path.toList = true)
    (directory : String) : join directory path = path := by
  rw [join, joinChars, if_pos absolute, String.ofList_toList]

theorem toList_join_of_relative {path : String} (relative : isAbsolute path.toList = false)
    (directory : String) :
    (join directory path).toList = directory.toList ++ gap directory.toList ++ path.toList := by
  rw [join, joinChars, if_neg (Bool.eq_false_iff.mp relative), String.toList_ofList]

end LaunchConfig.Path
