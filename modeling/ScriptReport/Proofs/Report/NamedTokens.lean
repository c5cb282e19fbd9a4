/-
  ScriptReport.Proofs.Report.NamedTokens

  Tokens by the names of their kinds, which is how a renderer tells them apart. Every token that is
  read from running text has a name that every format knows, so running text can be rendered by
  names, with the same result (`renderAllNamed_namesOf_readInline`).
-/

import ScriptReport.Report.Renderer

namespace ScriptReport.Report.Renderer

open ScriptReport.Script

/-! ## Names -/

/-- The name of a style. -/
def styleName : Style → Chars
  | .bold => "bold"
  | .italic => "italic"
  | .monospaced => "monospaced"

mutual

/-- A token by the name of its kind. -/
def nameOf : Inline → NamedToken
  | .plain text => .leaf "plaintext" text
  | .link target => .leaf "link" target
  | .mathInline source => .leaf "math_inline" source
  | .mathBlock source => .leaf "math_block" source
  | .trademark => .leaf "trademark" trademarkText
  | .registered => .leaf "registered_trademark" registeredText
  | .span style children => .span (styleName style) (namesOf children)

/-- Tokens by the names of their kinds. -/
def namesOf : List Inline → List NamedToken
  | [] => []
  | token :: rest => nameOf token :: namesOf rest

end

/-! ## Rendering by names -/

theorem styleOf?_styleName (style : Style) : styleOf? (styleName style) = some style := by
  cases style <;> rfl

variable (f : Format)

theorem renderNamed_leaf {kind text : Chars} {token : Inline} (h : leafOf? kind text = some token) :
    renderNamed (.format f) (.leaf kind text) = .ok (renderToken (backEnd f) token) := by
  unfold renderNamed
  rw [h]

mutual

theorem renderNamed_nameOf : ∀ token : Inline,
    renderNamed (.format f) (nameOf token) = .ok (renderToken (backEnd f) token)
  | .plain _ => renderNamed_leaf f rfl
  | .link _ => renderNamed_leaf f rfl
  | .mathInline _ => renderNamed_leaf f rfl
  | .mathBlock _ => renderNamed_leaf f rfl
  | .trademark => renderNamed_leaf f rfl
  | .registered => renderNamed_leaf f rfl
  | .span style children => by
    rw [nameOf, renderNamed, styleOf?_styleName, renderAllNamed_namesOf children]
    rfl

/-- Tokens are rendered by names as they are by kinds. -/
theorem renderAllNamed_namesOf : ∀ tokens : List Inline,
    renderAllNamed (.format f) (namesOf tokens) = .ok (renderTokens (backEnd f) tokens)
  | [] => rfl
  | token :: rest => by
    rw [namesOf, renderAllNamed, renderNamed_nameOf token, renderAllNamed_namesOf rest]
    rfl

end

/-- Running text has no token of an unknown kind. -/
theorem renderAllNamed_namesOf_readInline (text : Chars) :
    renderAllNamed (.format f) (namesOf (readInline text)) =
      .ok (renderInline (backEnd f) text) :=
  renderAllNamed_namesOf f (readInline text)

end ScriptReport.Report.Renderer
