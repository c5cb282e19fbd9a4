/-
  ScriptReport.Fault

  Everything that can stop an operation, by cause, and how each cause is reported.
-/

import ScriptReport.Files.Fault
import ScriptReport.Script.Document
import ScriptReport.Settings.ConfigFault
import ScriptReport.Settings.Options
import ScriptReport.Text.Charset
import ScriptReport.Url.Location
import ScriptReport.Yaml.Fault

namespace ScriptReport

/-! ## Unsuitable input -/

/-- The input is not the kind of document that is asked for. -/
inductive InputFault where
  | nullInInclude
  /-- The file to include lies outside the directory of the script. -/
  | includeOutside (path : Chars)
  /-- The file has none of the extensions of scripts. -/
  | noScript (suffixes : List Chars) (name : Chars)
  /-- The file has none of the extensions of reports. -/
  | noReport (name : Chars)
  | noSourceBegin
  | noSourceEnd
  deriving DecidableEq, Repr

/-- The text that reports the fault. -/
def InputFault.message : InputFault → Chars
  | .nullInInclude => "NUL byte in include path is not allowed."
  | .includeOutside path => "Include path must stay within the script directory: " ++ path
  | .noScript suffixes name =>
    "Only scripts (" ++ Text.join ", " suffixes ++ ") can be published: " ++ name
  | .noReport name => name ++ " should be a published .html or .tex report"
  | .noSourceBegin => "No embedded source found (missing SOURCE BEGIN marker)."
  | .noSourceEnd => "No embedded source found (missing SOURCE END marker)."

/-- A path from the user that is refused before it is followed. -/
inductive UnsafePath where
  | empty
  | nullByte
  | traversal
  | outsideRoot (root : Chars)
  deriving DecidableEq, Repr

/-- The text that reports the fault. -/
def UnsafePath.message : UnsafePath → Chars
  | .empty => "Empty input path."
  | .nullByte => "NUL byte in path is not allowed."
  | .traversal => "Path traversal ('..') is not allowed."
  | .outsideRoot root => "Input path must be within root: " ++ root

/-! ## Servers -/

/-- What is wrong with an exchange with a server where the system is not to blame. -/
inductive ExchangeFlaw where
  /-- The address, or one that the server sends on to, cannot be asked for: it holds blanks or
      controls, its port is no number, or it cannot be split into parts. -/
  | address
  /-- The address has characters that cannot be sent, or its host is no host name. -/
  | encoding
  /-- The number of the port is too great. -/
  | port
  /-- What comes back is no whole answer: its first line is no status, a line or the number of
      lines is too great, or the body ends too early. -/
  | protocol
  deriving DecidableEq, Repr

/-- Why no text comes back from a server. -/
inductive NetworkFault where
  /-- The system or the network fails, or the server refuses. -/
  | system (message : Chars)
  /-- The exchange breaks off for another reason. -/
  | exchange (flaw : ExchangeFlaw) (message : Chars)
  deriving DecidableEq, Repr

/-- The text that reports the fault. -/
def NetworkFault.message : NetworkFault → Chars
  | .system message => message
  | .exchange _ message => message

/-! ## All faults -/

/-- Why an operation stops. -/
inductive Fault where
  | file (fault : FileFault)
  /-- No file stands at the path. -/
  | missing (path : Chars)
  /-- What stands at the path is no file. -/
  | notFile (path : Chars)
  | input (fault : InputFault)
  | unsafePath (fault : UnsafePath)
  | options (fault : OptionsFault)
  /-- There is no renderer for a format. -/
  | noRenderer (format : Chars)
  | config (fault : ConfigFault)
  /-- A configuration file cannot be read as a document. -/
  | document (fault : Yaml.Fault)
  /-- Running code failed, after the given output. -/
  | evaluation (message : Chars) (outputLines : List Chars)
  /-- Code is to be run by a command without words, and the run cannot be started. -/
  | noCommand
  /-- The class of a script line cannot be told. -/
  | cutShortLine
  | attach (fault : Script.Document.AttachFault)
  | location (fault : Url.LocationFault)
  /-- Nothing has come back from a server. -/
  | unreachable (fault : NetworkFault)
  /-- What a server answers is no text, or a text cannot be written. -/
  | charset (fault : Text.Charset.Fault)
  /-- A decimal number in a character reference has too many digits. -/
  | overlongNumber (digits : Nat)
  deriving DecidableEq, Repr

/-- The fault comes from the system or the network. -/
def Fault.isSystemFault : Fault → Bool
  | .file (.system _ _) => true
  | .missing _ => true
  | .notFile _ => true
  | .unreachable (.system _) => true
  | _ => false

/-- The fault is unsuitable input. -/
def Fault.isInputFault : Fault → Bool
  | .input _ => true
  | _ => false

/-- The text that reports the fault. -/
def Fault.message : Fault → Chars
  | .file fault => fault.message
  | .missing path => "File not found: " ++ path
  | .notFile path => "Not a file: " ++ path
  | .input fault => fault.message
  | .unsafePath fault => fault.message
  | .options fault => fault.message
  | .noRenderer format => "Output format " ++ Text.quoted format ++ " not supported"
  | .config fault => fault.message
  | .document fault => fault.message
  | .evaluation message _ => message
  | .noCommand => "list index out of range"
  | .cutShortLine => "string index out of range"
  | .attach fault => fault.message
  | .location fault => fault.message
  | .unreachable fault => fault.message
  | .charset fault => fault.message
  | .overlongNumber digits => Text.overlongMessage digits

end ScriptReport
