/-
  ScriptReport.Evaluation.Interpreter

  Running code through the Octave interpreter, one process for each call. Variables live on in a
  context file that each process loads first and saves last; open figures are printed to numbered
  files of the figure directory.
-/

import ScriptReport.Evaluation.Evaluator
import ScriptReport.Text.LineBreak
import ScriptReport.World

namespace ScriptReport.Evaluation

/-! ## Settings -/

/-- How code is run: the command line, and where figures go. -/
structure Interpreter where
  command : List Chars
  figureDir : Option Path := none
  figurePrefix : Chars := "figure"
  imageFormat : Chars := "png"
  deriving Repr

/-- The state of an interpreter in the world: the number of calls that ran code. -/
abbrev Bench := Nat × World

namespace Interpreter

/-! ## Figures -/

/-- The extension of figure files in a format. -/
def extension (format : Chars) : Chars :=
  if (["epsc2", "epsc", "eps2"] : List Chars).contains format then "eps"
  else if format = "jpeg".toList then "jpg"
  else format

/-- The name of a figure of the call with the given number. -/
def figureName (i : Interpreter) (counter : Nat) (index : Chars) : Chars :=
  i.figurePrefix ++ "_" ++ Text.padded 2 counter ++ "_" ++ index ++ "." ++ extension i.imageFormat

/-- The directory of figures. -/
def directory (i : Interpreter) (cwd : Place) : Path := i.figureDir.getD cwd.path

/-- The number of a figure as it stands in names, in two digits at least. A negative one, which no
    figure has, is written as it is. -/
def indexText : Int → Chars
  | .ofNat n => Text.padded 2 n
  | .negSucc n => Text.ofInt (.negSucc n)

/-- The path that a figure of any number would have. -/
def pathAt (i : Interpreter) (cwd : Place) (counter : Nat) (index : Int) : Path :=
  (i.directory cwd).child (i.figureName counter (indexText index))

/-- The path of a figure by its number. -/
def figurePath (i : Interpreter) (cwd : Place) (counter index : Nat) : Path :=
  (i.directory cwd).child (i.figureName counter (Text.padded 2 index))

/-- The names of the figures numbered from `index` on, up to the first that does not exist, and at
    most `most` of them. -/
def figuresFrom (i : Interpreter) (disk : Disk) (counter index : Nat) :
    Nat → Except FileFault (List Chars)
  | 0 => .ok []
  | most + 1 => do
    let path := i.figurePath disk.cwd counter index
    if ← disk.hasEntry path then
      return path.name :: (← figuresFrom i disk counter (index + 1) most)
    else return []

/-- The names of the figures of the latest call. There cannot be more of them than entries. -/
def figures (i : Interpreter) (disk : Disk) (counter : Nat) : Except FileFault (List Chars) :=
  i.figuresFrom disk counter 1 (disk.tree.entries.length + 1)

/-! ## The script of a call -/

/-- A text as a literal of the interpreter's language: a quote inside is written twice. -/
def literal (text : Chars) : Chars := '\'' :: Text.replace "'" "''" text ++ ['\'']

/-- A name in a directory, as path text; an absolute name stands for itself. -/
def joinText (directory name : Chars) : Chars :=
  if name.head? = some '/' then name
  else if directory = [] || directory.getLast? = some '/' then directory ++ name
  else directory ++ '/' :: name

/-- The pattern of figure paths: `%02d` stands for the number, and a percent sign of the directory
    is written twice. -/
def figurePattern (i : Interpreter) (counter : Nat) (directory : Path) : Chars :=
  joinText (Text.replace "%" "%%" directory.text) (i.figureName counter "%02d")

/-- The lines that print the open figures and close them. -/
def printLines (i : Interpreter) (counter : Nat) (directory : Path) : List Chars :=
  ["__publish_figs__ = sort (findall (0, 'type', 'figure'));",
   "for __publish_i__ = 1:numel (__publish_figs__)",
   "  print (__publish_figs__(__publish_i__), sprintf (" ++
     literal (i.figurePattern counter directory) ++ ", __publish_i__), " ++
     literal ("-d" ++ i.imageFormat) ++ ");",
   "endfor",
   "close all;",
   "clear __publish_figs__ __publish_i__;"]

/-- The script of a call. -/
def script (i : Interpreter) (counter : Nat) (code : Chars) (context : Path) : Chars :=
  let ctx := literal context.text
  Text.unlines
    (["if (exist (" ++ ctx ++ ", 'file') == 2)", "  load (" ++ ctx ++ ");", "endif", code] ++
      (match i.figureDir with
       | some directory => i.printLines counter directory
       | none => []) ++
      ["save (" ++ ctx ++ ");"]) ++ "\n"

/-- The name of the file that holds the script of a call. -/
def scriptName : Chars := "publish_segment.m"

/-! ## Errors -/

/-- The message of a failed process: its first error line, or else its last line, or else its
    status. -/
def errorMessage (errors : Chars) (status : Int) : Chars :=
  let lines := ((Text.outputLines errors).map Text.trim).filter (· ≠ [])
  match lines.findSome? (Text.afterOpening? "error: ") with
  | some message => message
  | none => lines.getLast?.getD ("interpreter exited with status " ++ Text.ofInt status)

/-- The message for a command that cannot be started. -/
def startMessage (command : Chars) : Chars :=
  "cannot run " ++ command ++ ": " ++ (FileFault.system .noEntry command).message

/-! ## Calls -/

/-- The context of a call, made up if there is none. -/
def contextOr (context : Option Path) (w : World) : Path × World :=
  match context with
  | some path => (path, w)
  | none => w.newContext

/-- Makes the figure directory, if there is one. -/
def prepare (i : Interpreter) (w : World) : World × Option FileFault :=
  match i.figureDir with
  | none => (w, none)
  | some directory =>
    let (disk, fault) := w.disk.makeDirectories directory
    ({ w with disk }, fault)

/-- What a process that has been started amounts to. -/
def finish (i : Interpreter) (counter : Nat) (context : Path) (reply : ProcessReply)
    (disk : Disk) : Except Fault (Outcome (Option Path)) :=
  let outputLines := Text.outputLines reply.output
  if reply.cannotStart then
    match i.command with
    | [] => .error .noCommand
    | command :: _ => .error (.evaluation (startMessage command) [])
  else if let some fault := reply.undecodable then .error (.file (.undecodable fault))
  else if reply.status ≠ 0 then
    .error (.evaluation (errorMessage reply.errors reply.status) outputLines)
  else
    match (if i.figureDir.isSome then i.figures disk counter else .ok []) with
    | .ok graphics => .ok { outputLines, context := some context, graphics }
    | .error fault => .error (.file fault)

/-- Runs code in a context. Blank code runs no process and is not counted. -/
def call (i : Interpreter) (code : Chars) (context : Option Path) (bench : Bench) :
    Except Fault (Outcome (Option Path)) × Bench :=
  let (counter, w) := bench
  let (context, w) := contextOr context w
  if Text.isBlank code then (.ok { context := some context }, (counter, w))
  else
    let counter := counter + 1
    match i.prepare w with
    | (w, some fault) => (.error (.file fault), (counter, w))
    | (w, none) =>
      let (reply, w) := w.start (i.command ++ [scriptName]) (i.script counter code context)
      (i.finish counter context reply w.disk, (counter, w))

/-- Removes the context file, if there is one. -/
def discard (context : Option Path) (bench : Bench) : Except Fault Unit × Bench :=
  let (counter, w) := bench
  match context with
  | none => (.ok (), bench)
  | some path =>
    match w.disk.hasEntry path with
    | .error fault => (.error (.file fault), bench)
    | .ok false => (.ok (), bench)
    | .ok true =>
      match w.disk.remove path with
      | .ok disk => (.ok (), (counter, { w with disk }))
      | .error fault => (.error (.file fault), bench)

/-- The interpreter as an evaluator. -/
def evaluator (i : Interpreter) : Evaluator Bench (Option Path) where
  noContext := none
  newContext := some fun (counter, w) =>
    let (path, w) := w.newContext
    (some path, (counter, w))
  call := i.call
  discard := some discard

end Interpreter

end ScriptReport.Evaluation
