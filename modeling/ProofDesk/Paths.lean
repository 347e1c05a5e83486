/-!
# Paths

Where the program keeps its files: in a directory of its own below the user's cache directory.
-/

namespace ProofDesk

/-- What the environment says about the user's directories. -/
structure Environment where
  /-- The cache directory that is asked for. -/
  cacheHome : Option String
  /-- The home directory that is asked for. -/
  home : Option String
  /-- The home directory of the account. -/
  accountHome : Option String
  deriving Repr, DecidableEq, Inhabited

namespace Path

/-- Whether a path begins at the root. -/
def isAbsolute (path : String) : Bool :=
  path.toList.head? == some '/'

/-- A path inside a directory. A slash at the end of the directory is not doubled. -/
def join (directory inside : String) : String :=
  if isAbsolute inside then inside
  else if directory.isEmpty || directory.toList.getLast? == some '/' then directory ++ inside
  else directory ++ "/" ++ inside

/-- A path without the segments that stay in a directory or go back, if it stays below the directory
where it starts. -/
def below? (path : String) : Option String :=
  if isAbsolute path then none
  else
    let kept := (path.splitOn "/").foldlM (fun kept segment =>
      match segment, kept with
      | "", _ | ".", _ => some kept
      | "..", [] => none
      | "..", _ :: outer => some outer
      | name, _ => some (name :: kept)) []
    kept.map fun kept => "/".intercalate kept.reverse

end Path

namespace Environment

/-- The user's home directory. An empty one counts as none. -/
def homeDirectory (e : Environment) : Option String :=
  (e.home.filter (!·.isEmpty)).or e.accountHome

/-- The user's cache directory. One that is asked for counts only if it is absolute. -/
def cacheDirectory (e : Environment) : Option String :=
  (e.cacheHome.filter Path.isAbsolute).or (e.homeDirectory.map (Path.join · ".cache"))

/-- A file in the program's own directory. -/
def fileAt (e : Environment) (name : String) : String :=
  Path.join (e.cacheDirectory.getD ".") ("coq-tui/" ++ name)

/-- The socket at which the engine waits for viewers. -/
def socket (e : Environment) : String :=
  e.fileAt "coq-tui.sock"

/-- The engine's log file, unless another one is asked for. -/
def logFile (e : Environment) : String :=
  e.fileAt "coq-tui.log"

end Environment

end ProofDesk
