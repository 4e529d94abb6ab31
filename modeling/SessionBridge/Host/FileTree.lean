import SessionBridge.Host.Process

/-! A file system in memory: directories, files with contents, and files that are programs. Paths are
followed name by name from the root or from the working directory, so a name that is missing or not a
directory is noticed where it stands. -/
namespace SessionBridge

inductive Node where
  | directory
  /-- A file; one that is a program has a way to end when it is run. -/
  | file (contents : List UInt8) (program : Option ProgramEnd)
  deriving DecidableEq

structure FileTree where
  /-- Everything below the root, by its names from the root on. -/
  nodes : List (List String × Node)
  workingDirectory : List String
  /-- The directories in which programs are looked for by name. -/
  searchPath : List (List String)

namespace FileTree

inductive Place where
  | found (names : List String) (node : Node)
  /-- Only the last name is missing, in a directory that is there. -/
  | vacant (names : List String)

/-- The longest name in bytes, and the length that no path reaches. -/
def nameLimit : Nat := 255
def pathLimit : Nat := 4096

/-- The length in bytes that no single argument of a program reaches. -/
def argumentLimit : Nat := 131072

def node? (t : FileTree) (names : List String) : Option Node :=
  if names.isEmpty then some .directory else t.nodes.lookup names

def put (t : FileTree) (names : List String) (n : Node) : FileTree :=
  { t with nodes := t.nodes.filter (·.1 ≠ names) ++ [(names, n)] }

def follow (t : FileTree) (here : List String) : List String → Except OsError Place
  | [] =>
    match t.node? here with
    | some n => .ok (.found here n)
    | none => .error .notFound
  | name :: rest =>
    match t.node? here with
    | none => .error .notFound
    | some (.file ..) => .error .notADirectory
    | some .directory =>
      if name = "." then t.follow here rest
      else if name = ".." then t.follow here.dropLast rest
      else if nameLimit < name.utf8ByteSize then .error .nameTooLong
      else
        let there := here ++ [name]
        if (t.node? there).isSome then t.follow there rest
        else if rest.isEmpty then .ok (.vacant there)
        else .error .notFound

def namesOf (path : String) : List String :=
  ((path.toList.splitOn '/').filter (!·.isEmpty)).map String.ofList

def isAbsolute (path : String) : Bool :=
  path.toList.head? = some '/'

def endsInSlash (path : String) : Bool :=
  path.toList.getLast? = some '/'

def hasZero (s : String) : Bool :=
  s.toList.any (· == '\x00')

def resolve (t : FileTree) (path : String) : Except OsError Place :=
  if hasZero path then .error .zeroInPath
  else if path.isEmpty then .error .notFound
  else if pathLimit ≤ path.utf8ByteSize then .error .nameTooLong
  else t.follow (if isAbsolute path then [] else t.workingDirectory) (namesOf path)

/-- What stands at a path. A slash at the end asks for a directory. -/
def lookup (t : FileTree) (path : String) : Except OsError (List String × Node) :=
  match t.resolve path with
  | .error e => .error e
  | .ok (.vacant _) => .error .notFound
  | .ok (.found names .directory) => .ok (names, .directory)
  | .ok (.found names n) => if endsInSlash path then .error .notADirectory else .ok (names, n)

def isDirectory (t : FileTree) (path : String) : Bool :=
  match t.lookup path with
  | .ok (_, .directory) => true
  | _ => false

/-! ### Directories -/

def makeDirectory (t : FileTree) (path : String) : Except OsError FileTree :=
  match t.resolve path with
  | .error e => .error e
  | .ok (.found ..) => .error .fileExists
  | .ok (.vacant names) => .ok (t.put names .directory)

/-- The names that lead to a path from its start: a single dot counts only at the front of a path
that is not absolute. -/
def stepsOf (path : String) : List String :=
  match namesOf path with
  | [] => []
  | name :: rest =>
    if name = "." && !isAbsolute path then name :: rest.filter (· ≠ ".")
    else (name :: rest).filter (· ≠ ".")

def pathOf (absolute : Bool) (steps : List String) : String :=
  (if absolute then "/" else "") ++ "/".intercalate steps

/-- One attempt at a directory; one that is there already is as good. -/
def attempt (t : FileTree) (path : String) : Except OsError Unit × FileTree :=
  match t.makeDirectory path with
  | .ok t => (.ok (), t)
  | .error e => (if t.isDirectory path then .ok () else .error e, t)

/-- Makes a directory by the path `path`, and first those above it that are missing, whose steps are
given innermost first. What has been made stays when a later one fails. -/
def makeFrom (absolute : Bool) (path : String) : List String → FileTree → Except OsError Unit × FileTree
  | [], t => (.ok (), t)
  | _ :: above, t =>
    match t.attempt path with
    | (.error .notFound, t) =>
      match makeFrom absolute (pathOf absolute above.reverse) above t with
      | (.error e, t) => (.error e, t)
      | (.ok (), t) => t.attempt path
    | result => result

def ensureDirectory (t : FileTree) (path : String) : Except OsError Unit × FileTree :=
  if t.isDirectory path then (.ok (), t)
  else makeFrom (isAbsolute path) path (stepsOf path).reverse t

/-! ### Files and programs -/

def contentsOf (t : FileTree) (path : String) : Except OsError (List UInt8) :=
  match t.lookup path with
  | .error e => .error e
  | .ok (_, .directory) => .error .isADirectory
  | .ok (_, .file contents _) => .ok contents

def programAt (t : FileTree) (path : String) : Except OsError (List String × ProgramEnd) :=
  match t.lookup path with
  | .error e => .error e
  | .ok (names, .file _ (some ending)) => .ok (names, ending)
  | .ok _ => .error .permissionDenied

/-- The first program of a name in the search path. A file of that name that is no program is
remembered, but the search goes on. -/
def search (t : FileTree) (name : String) : List (List String) → Except OsError (List String × ProgramEnd)
  | [] => .error .notFound
  | dir :: dirs =>
    match t.programAt (pathOf true (dir ++ [name])) with
    | .ok program => .ok program
    | .error .permissionDenied =>
      match t.search name dirs with
      | .ok program => .ok program
      | .error _ => .error .permissionDenied
    | .error _ => t.search name dirs

def programOf (t : FileTree) (program : String) : Except OsError (List String × ProgramEnd) :=
  if program.isEmpty then .error .notFound
  else if program.toList.any (· == '/') then t.programAt program
  else if nameLimit < program.utf8ByteSize then .error .nameTooLong
  else t.search program t.searchPath

def run (t : FileTree) (i : Invocation) : Except OsError (List String × ProgramEnd) :=
  if hasZero i.program || i.arguments.any hasZero then .error .zeroInArgument
  else
    match t.programOf i.program with
    | .error e => .error e
    | .ok program =>
      if i.arguments.any (argumentLimit ≤ ·.utf8ByteSize + 1) then .error .tooManyArguments
      else .ok program

def execute (t : FileTree) (i : Invocation) : Except OsError ProgramEnd :=
  (t.run i).map (·.2)

def listing (t : FileTree) (root : List String) : List String :=
  t.nodes.filterMap fun (names, n) =>
    if root.isPrefixOf names && root.length < names.length then
      let path := "/".intercalate (names.drop root.length)
      some (match n with
        | .directory => path ++ "/"
        | .file .. => path)
    else none

end FileTree

def LogFile.prepare (t : FileTree) (dir stem : String) (started : DateTime) :
    Except DaemonError String × FileTree :=
  let (made, after) := t.ensureDirectory dir
  (destination (fun _ => made) dir stem started, after)

def ServiceHost.startIn [DaemonEntry ε] (host : ServiceHost) (t : FileTree) (args : ServiceArgs)
    (started : DateTime) (entry : ε) : Start ε × FileTree :=
  let after := match args.logPath with
    | some dir => (t.ensureDirectory dir).2
    | none => t
  (host.start args (fun dir => (t.ensureDirectory dir).1) started entry, after)

end SessionBridge
