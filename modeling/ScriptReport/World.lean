/-
  ScriptReport.World

  What lies around the program: the files, the interpreter's process and the network. The process
  and the network are given by their answers, and every start of a process is recorded.
-/

import ScriptReport.Fault
import ScriptReport.Files.Disk

namespace ScriptReport

/-! ## Processes -/

/-- How one run of the interpreter's process goes. -/
structure ProcessReply where
  status : Int := 0
  output : Chars := []
  errors : Chars := []
  /-- Files that the process leaves behind, empty. -/
  creates : List Path := []
  /-- The process cannot be started. -/
  cannotStart : Bool := false
  /-- What the process prints is not UTF-8. -/
  undecodable : Option Text.Utf8.Fault := none
  deriving Repr

/-- A start of a process: its command line, in which the last word names the script, and the
    script's text. -/
structure ProcessStart where
  command : List Chars
  script : Chars
  deriving DecidableEq, Repr

/-! ## Network -/

/-- What comes of asking a server for the report at an address. -/
inductive NetworkReply where
  /-- A body, and the character set it is announced in. -/
  | body (content : Text.Octets) (charset : Option Chars)
  /-- The server cannot be reached. -/
  | failure (reason : Chars)
  /-- The server refuses, or the system fails once its answer has begun. -/
  | refused (message : Chars)
  /-- The exchange breaks off for another reason, which may be the address itself. -/
  | broken (flaw : ExchangeFlaw) (message : Chars)
  deriving Repr

/-! ## The world -/

/-- The surroundings of the program. -/
structure World where
  disk : Disk
  /-- How the next runs of the interpreter go; after that, they succeed and do nothing. -/
  replies : List ProcessReply := []
  /-- The processes started so far, in order. -/
  started : List ProcessStart := []
  network : NetworkReply := .failure "unreachable"
  /-- How many context files have been named. -/
  contexts : Nat := 0
  /-- The warnings given so far, in order. -/
  warnings : List Script.Warning := []
  deriving Repr

namespace World

/-- The world with more warnings given. -/
def warn (w : World) (warnings : List Script.Warning) : World :=
  { w with warnings := w.warnings ++ warnings }

/-- The disk with an empty file at a path and directories on the way to it. -/
def createEmpty (disk : Disk) (path : Path) : Disk :=
  let (disk, _) := disk.makeDirectories path.parent
  match disk.write path [] with
  | .ok disk => disk
  | .error _ => disk

/-- The world after a process has been started, and how it went. -/
def start (w : World) (command : List Chars) (script : Chars) : ProcessReply × World :=
  let reply := w.replies.headD {}
  let disk := if reply.cannotStart then w.disk else reply.creates.foldl createEmpty w.disk
  (reply,
    { w with disk, replies := w.replies.tail, started := w.started ++ [⟨command, script⟩] })

/-- The path of a context file that does not exist yet. -/
def newContext (w : World) : Path × World :=
  (Path.ofText ("/tmp/publish-context-" ++ Text.padded 8 w.contexts ++ ".mat"),
    { w with contexts := w.contexts + 1 })

end World

end ScriptReport
