/-
  ScriptReport.Settings.ConfigFault

  Why the content of a configuration file is refused.
-/

import ScriptReport.Settings.Config

namespace ScriptReport

/-- Why a configuration is refused. The first group concerns the kind of a value, the second a
    value of the right kind. -/
inductive ConfigFault where
  | rootIsNoMapping
  | notFlag (key : Chars)
  | limitIsNoInteger
  | commentsAreNoPair
  | notTextList (key : Chars)
  | notText (key : Chars)
  | negativeLimit
  | commentsAreNotDistinct
  | unsupportedFormat
  /-- An integer has too many digits to be written. -/
  | overlongInteger
  deriving DecidableEq, Repr

/-- The fault concerns the kind of a value, not the value. -/
def ConfigFault.isKindFault : ConfigFault → Bool
  | .negativeLimit => false
  | .commentsAreNotDistinct => false
  | .unsupportedFormat => false
  | .overlongInteger => false
  | _ => true

/-- The text that reports the fault. -/
def ConfigFault.message : ConfigFault → Chars
  | .rootIsNoMapping => "Config root must be a mapping"
  | .notFlag key => key ++ " must be true or false"
  | .limitIsNoInteger => "max_output_lines must be an integer >= 0 or null"
  | .negativeLimit => "max_output_lines must be an integer >= 0 or null"
  | .commentsAreNoPair => "comment_chars must be a list of two characters"
  | .commentsAreNotDistinct => "comment_chars must hold two distinct single characters"
  | .notTextList key => key ++ " must be a non-empty list of strings"
  | .notText key => key ++ " must be a string"
  | .unsupportedFormat => "format must be one of: " ++ Text.join ", " Format.names
  | .overlongInteger =>
    "Exceeds the limit (4300 digits) for integer string conversion; " ++
      "use sys.set_int_max_str_digits() to increase the limit"

end ScriptReport
