/-
  ScriptReport.Html.Escape

  Writing text into HTML. `escape` is safe in element content and between quotes of an attribute;
  `escapeMarkup` leaves quotes alone and is safe wherever no quote can end anything, such as in a
  comment: what it writes holds no angle bracket.
-/

import ScriptReport.Text.Chars

namespace ScriptReport.Html

/-! ## Escaping -/

/-- The three characters that markup is made of, as references. -/
def escapeMarkupChar (c : Char) : Chars :=
  if c = '&' then "&amp;" else if c = '<' then "&lt;" else if c = '>' then "&gt;" else [c]

/-- Markup characters and both quotes, as references. -/
def escapeChar (c : Char) : Chars :=
  if c = '"' then "&quot;" else if c = '\'' then "&#x27;" else escapeMarkupChar c

/-- The text without ampersands and angle brackets of its own. -/
def escapeMarkup (text : Chars) : Chars := Text.concatMap escapeMarkupChar text

/-- The text without ampersands, angle brackets and quotes of its own. -/
def escape (text : Chars) : Chars := Text.concatMap escapeChar text

/-- The escape of page templates: like `escape`, with both quotes by decimal number. -/
def escapeForTemplate (text : Chars) : Chars :=
  Text.concatMap
    (fun c => if c = '"' then "&#34;" else if c = '\'' then "&#39;" else escapeMarkupChar c) text

/-! ## Laws -/

@[simp] theorem escape_nil : escape [] = [] := rfl

@[simp] theorem escape_cons (c : Char) (text : Chars) :
    escape (c :: text) = escapeChar c ++ escape text := rfl

@[simp] theorem escapeMarkup_nil : escapeMarkup [] = [] := rfl

@[simp] theorem escapeMarkup_cons (c : Char) (text : Chars) :
    escapeMarkup (c :: text) = escapeMarkupChar c ++ escapeMarkup text := rfl

end ScriptReport.Html
