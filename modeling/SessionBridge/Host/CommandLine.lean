/-! The command line of the service host: options first, then the service arguments, which start at
the first word that is no option and from there on take everything. An option's value is taken up
only when the next thing is read, so a value that is missing is noticed then. -/
namespace SessionBridge

structure CommandLine where
  verbose : Bool
  config : Option String
  daemon : Option String
  observeWorker : Bool
  serviceArgs : List String
  deriving DecidableEq, Inhabited

inductive UsageError where
  | displayHelp
  | displayVersion
  | invalidValue
  | tooManyValues
  | argumentConflict
  deriving DecidableEq

/-- Asking for help or the version is no failure. -/
def UsageError.exitStatus : UsageError → UInt8
  | .displayHelp | .displayVersion => 0
  | _ => 2

namespace CommandLine

def none : CommandLine := ⟨false, .none, .none, false, []⟩

inductive Setting where
  | config
  | daemon
  deriving DecidableEq

inductive Flag where
  | verbose
  | observeWorker
  | help
  | version
  deriving DecidableEq

inductive Switch where
  | flag (f : Flag)
  | option (o : Setting)
  deriving DecidableEq

def long? (name : String) : Option Switch :=
  [("verbose", Switch.flag .verbose), ("config", .option .config), ("daemon", .option .daemon),
    ("observe-worker", .flag .observeWorker), ("help", .flag .help),
    ("version", .flag .version)].lookup name

def short? (letter : Char) : Option Switch :=
  [('v', Switch.flag .verbose), ('c', .option .config), ('h', .flag .help),
    ('V', .flag .version)].lookup letter

/-- The command line so far, and an option that still waits for its value or has just got it. -/
structure Progress where
  parsed : CommandLine
  pending : Option (Setting × Option String)

def Progress.start : Progress := ⟨none, .none⟩

def assign (c : CommandLine) : Setting → String → Except UsageError CommandLine
  | .config, value =>
    if c.config.isSome then .error .argumentConflict else .ok { c with config := some value }
  | .daemon, value =>
    if c.daemon.isSome then .error .argumentConflict
    else if value.isEmpty then .error .invalidValue
    else .ok { c with daemon := some value }

def Progress.settle (p : Progress) : Except UsageError CommandLine :=
  match p.pending with
  | .none => .ok p.parsed
  | some (_, .none) => .error .invalidValue
  | some (o, some value) => assign p.parsed o value

def raise (c : CommandLine) : Flag → Except UsageError CommandLine
  | .verbose => if c.verbose then .error .argumentConflict else .ok { c with verbose := true }
  | .observeWorker =>
    if c.observeWorker then .error .argumentConflict else .ok { c with observeWorker := true }
  | .help => .error .displayHelp
  | .version => .error .displayVersion

def Progress.flag (p : Progress) (f : Flag) : Except UsageError Progress := do
  let c ← p.settle
  return ⟨← raise c f, .none⟩

def Progress.attach (p : Progress) (o : Setting) (value : String) : Except UsageError Progress := do
  let c ← p.settle
  return ⟨← assign c o value, .none⟩

def Progress.expect (p : Progress) (o : Setting) : Except UsageError Progress := do
  return ⟨← p.settle, some (o, .none)⟩

/-- Reads letters behind a single hyphen, all of which are known. The letters behind an option are
its value. -/
def Progress.letters (p : Progress) : List Char → Except UsageError Progress
  | [] => .ok p
  | letter :: rest =>
    match short? letter with
    | some (.flag f) => do (← p.flag f).letters rest
    | some (.option o) =>
      if rest.isEmpty then p.expect o else p.attach o (String.ofList rest)
    | .none => .ok p

/-- Reads a known long option. A flag takes no value, whatever is pending. -/
def Progress.long (p : Progress) (s : Switch) (value : Option String) : Except UsageError Progress :=
  match s, value with
  | .flag f, .none => p.flag f
  | .flag _, some _ => .error .tooManyValues
  | .option o, some value => p.attach o value
  | .option o, .none => p.expect o

inductive Word where
  | separator
  | long (s : Switch) (value : Option String)
  | letters (cs : List Char)
  | plain
  deriving DecidableEq

def wordOf (arg : String) : Word :=
  match arg.toList with
  | ['-', '-'] => .separator
  | '-' :: '-' :: cs =>
    let name := cs.takeWhile (· ≠ '=')
    let value := match cs.dropWhile (· ≠ '=') with
      | [] => Option.none
      | _ :: value => some (String.ofList value)
    match long? (String.ofList name) with
    | some s => .long s value
    | .none => .plain
  | '-' :: c :: cs => if (c :: cs).all fun c => (short? c).isSome then .letters (c :: cs) else .plain
  | _ => .plain

def Progress.finish (p : Progress) (serviceArgs : List String) : Except UsageError CommandLine := do
  return { ← p.settle with serviceArgs }

def Progress.read (p : Progress) : List String → Except UsageError CommandLine
  | [] => p.finish []
  | arg :: rest =>
    match wordOf arg, p.pending with
    | .separator, _ => p.finish rest
    | .long s value, _ => do (← p.long s value).read rest
    | .letters cs, _ => do (← p.letters cs).read rest
    | .plain, some (o, .none) => Progress.read ⟨p.parsed, some (o, some arg)⟩ rest
    | .plain, _ => p.finish (arg :: rest)

def parse (args : List String) : Except UsageError CommandLine :=
  Progress.start.read args

end CommandLine

end SessionBridge
