import SessionBridge.Text.Blank

/-! Service arguments. One names the log directory, under a key that is read without regard to case;
all others are the daemon's own and reach it as they are. -/
namespace SessionBridge

structure ServiceArgs where
  logPath : Option String
  forwarded : List String
  deriving DecidableEq, Inhabited

namespace ServiceArgs

def none : ServiceArgs := ⟨.none, []⟩

def logPathKey : List Char := ['l', 'o', 'g', 'p', 'a', 't', 'h', '=']

/-- What stands behind the key of a log path argument. Blanks in front of the key do not count, and
its letters are those of ASCII in either case. -/
def logPathValue? (arg : String) : Option (List Char) :=
  let cs := Text.trimStart arg.toList
  if (cs.take logPathKey.length).map Char.toLower = logPathKey then some (cs.drop logPathKey.length)
  else .none

def isQuote (c : Char) : Bool :=
  c == '"'

def unquoted (value : List Char) : List Char :=
  Text.trim (Text.strip isQuote (Text.trim value))

/-- A quote that is left inside shows that the value was not quoted as a whole. -/
def isMalformed (value : List Char) : Bool :=
  (unquoted value).any isQuote

def cleanPath (value : List Char) : Option String :=
  if (unquoted value).isEmpty || isMalformed value then .none
  else some (String.ofList (unquoted value))

/-- Takes one more argument in. A later log path replaces an earlier one, even if it is no good. -/
def take (parsed : ServiceArgs) (arg : String) : ServiceArgs :=
  match logPathValue? arg with
  | some value => { parsed with logPath := cleanPath value }
  | .none => { parsed with forwarded := parsed.forwarded ++ [arg] }

def parse (args : List String) : ServiceArgs :=
  args.foldl take none

def malformedLogPaths (args : List String) : List String :=
  args.filterMap fun arg => ((logPathValue? arg).filter isMalformed).map String.ofList

def commandLine (a : ServiceArgs) (programName : String) : String :=
  " ".intercalate (programName :: a.forwarded)

end ServiceArgs

end SessionBridge
