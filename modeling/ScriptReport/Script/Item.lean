/-
  ScriptReport.Script.Item

  What the text under a header consists of, and the warnings that reading it can give.
-/

import ScriptReport.Text.Quoted

namespace ScriptReport.Script

/-! ## Items -/

/-- One item of the text under a header. -/
inductive Item where
  /-- Running text; its inline markup is read when it is rendered. -/
  | text (text : Chars)
  /-- Code that is shown and never evaluated. -/
  | codeLiteral (text : Chars)
  | preformatted (text : Chars)
  | bulletedList (items : List Chars)
  | numberedList (items : List Chars)
  /-- A file to be shown, with its text once it has been read. -/
  | included (path : Chars) (text : Option Chars)
  | graphic (path : Chars)
  /-- Markup for HTML reports only. -/
  | html (raw : Chars)
  /-- Markup for LaTeX reports only. -/
  | latex (raw : Chars)
  deriving DecidableEq, Repr

/-- The name of the kind of an item. -/
def Item.kindName : Item → Chars
  | .text _ => "Text"
  | .codeLiteral _ => "CodeLiteral"
  | .preformatted _ => "PreformattedText"
  | .bulletedList _ => "BulletedList"
  | .numberedList _ => "NumberedList"
  | .included _ _ => "Include"
  | .graphic _ => "Graphic"
  | .html _ => "Html"
  | .latex _ => "Latex"

/-! ## Warnings -/

/-- A problem with markup that reading recovers from. -/
inductive Warning where
  /-- A tag is closed more than once; the text up to the first closing tag counts. -/
  | ambiguous (markup closeTag : Chars)
  /-- A region is not closed in its block. -/
  | unclosed (closeTag : Chars)
  /-- A file cannot be included, for the reason given. -/
  | cannotInclude (path reason : Chars)
  deriving DecidableEq, Repr

/-- The text that reports the warning. -/
def Warning.message : Warning → Chars
  | .ambiguous markup closeTag =>
    "ambiguous markup " ++ Text.quoted markup ++ ": more than one " ++ Text.quoted closeTag ++
      ", using the text up to the first one"
  | .unclosed closeTag => "no closing " ++ closeTag ++ " found"
  | .cannotInclude path reason => "cannot include " ++ Text.quoted path ++ ": " ++ reason

end ScriptReport.Script
