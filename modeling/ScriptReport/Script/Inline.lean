/-
  ScriptReport.Script.Inline

  Inline markup of running text. Links and formulas are found first and never split. In what is
  between them, delimiters are paired on each level of nesting, bold before italic before
  monospaced, and last the trademark symbols are found. `spell` writes tokens back as text.
-/

import ScriptReport.Text.Blank

namespace ScriptReport.Script

/-! ## Tokens -/

/-- The styles of a span. -/
inductive Style where
  | bold
  | italic
  | monospaced
  deriving DecidableEq, Repr

/-- The character on both sides of a span. -/
def Style.delimiter : Style → Char
  | .bold => '*'
  | .italic => '_'
  | .monospaced => '|'

/-- A token of running text. -/
inductive Inline where
  | plain (text : Chars)
  /-- A link: its address, a null character, and its label. -/
  | link (target : Chars)
  | mathInline (source : Chars)
  | mathBlock (source : Chars)
  | trademark
  | registered
  | span (style : Style) (children : List Inline)
  deriving Repr

/-- The address and the label of a link, as one text. -/
def packLink (url label : Chars) : Chars := url ++ '\x00' :: label

/-- The address of a link and its label; without a label the address is shown. -/
def unpackLink (target : Chars) : Chars × Chars :=
  match Text.cutAt? '\x00' target with
  | some (url, []) => (url, url)
  | some (url, label) => (url, label)
  | none => (target, target)

/-- The text of the trademark symbol in a script. -/
def trademarkText : Chars := "(TM)"

/-- The text of the registered trademark symbol in a script. -/
def registeredText : Chars := "(R)"

/-! ## Links and formulas -/

/-- A token found at the front of a text, and how many characters it takes. -/
abbrev Found := Option (Inline × Nat)

/-- A formula between double dollars: at least one character, up to the next double dollar. -/
def mathBlock? (text : Chars) : Found :=
  match text with
  | '$' :: '$' :: c :: rest =>
    (Text.find? "$$" rest).map fun n => (.mathBlock (c :: rest.take n), n + 5)
  | _ => none

/-- What a formula between single dollars may hold. -/
def isMathChar (c : Char) : Bool := c != '$' && c != '\n'

/-- A formula between single dollars on one line. -/
def mathInline? (text : Chars) : Found :=
  match text with
  | '$' :: rest =>
    let source := rest.takeWhile isMathChar
    if source ≠ [] && (rest.drop source.length).head? = some '$' then
      some (.mathInline source, source.length + 2)
    else none
  | _ => none

/-- What the address of a link may hold. -/
def isUrlChar (c : Char) : Bool := !Text.isBlankChar c && c != '>'

/-- The beginnings of the address of a link. -/
def linkSchemes : List Chars := ["http:", "https:", "ftp:", "file:", "mailto:"]

/-- The beginning of an address that a text starts with. -/
def scheme? (text : Chars) : Option Chars := linkSchemes.find? (·.isPrefixOf text)

/-- A link in angle brackets: an address, and after blanks perhaps a label. -/
def link? (text : Chars) : Found :=
  match text with
  | '<' :: rest =>
    match scheme? rest with
    | none => none
    | some scheme =>
      let address := scheme ++ (rest.drop scheme.length).takeWhile isUrlChar
      let after := rest.drop address.length
      let label := after.takeWhile (· != '>')
      if address.length = scheme.length || (after.drop label.length).isEmpty then none
      else
        let shown := Text.trim label
        some (.link (packLink address (if shown = [] then address else shown)),
          1 + address.length + label.length + 1)
  | _ => none

/-- The link or formula at the front of a text. -/
def protectedSpan? (text : Chars) : Found :=
  match mathBlock? text with
  | some found => some found
  | none =>
    match mathInline? text with
    | some found => some found
    | none => link? text

/-- The tokens with a plain text in front, joined to plain text that is there already. -/
def consPlain (text : Chars) (tokens : List Inline) : List Inline :=
  match tokens with
  | .plain t :: rest => .plain (text ++ t) :: rest
  | tokens => .plain text :: tokens

/-- `protectedSpans` inside the text: `skip` characters belong to the token just found. -/
def protectedSpansGo : Nat → Chars → List Inline
  | _, [] => []
  | skip + 1, _ :: rest => protectedSpansGo skip rest
  | 0, c :: rest =>
    match protectedSpan? (c :: rest) with
    | some (token, size) => token :: protectedSpansGo (size - 1) rest
    | none => consPlain [c] (protectedSpansGo 0 rest)

/-- The links and formulas of a text, found from left to right, and the plain text between. -/
def protectedSpans (text : Chars) : List Inline := protectedSpansGo 0 text

/-! ## Emphasis -/

/-- Neighbouring plain texts become one. -/
def mergePlain : List Inline → List Inline
  | [] => []
  | .plain t :: rest => consPlain t (mergePlain rest)
  | token :: rest => token :: mergePlain rest

/-- The pieces of a plain text between delimiters, empty ones dropped; `none` is a delimiter. -/
def plainAtoms : List Chars → List (Option Inline)
  | [] => []
  | [piece] => if piece = [] then [] else [some (.plain piece)]
  | piece :: rest =>
    (if piece = [] then [] else [some (.plain piece)]) ++ none :: plainAtoms rest

/-- Pairs the delimiters of one level. `inside` holds what follows an open delimiter; one that
    stays open is plain text. -/
def pairUp (style : Style) : Option (List Inline) → List (Option Inline) → List Inline
  | none, [] => []
  | none, some token :: rest => token :: pairUp style none rest
  | none, none :: rest => pairUp style (some []) rest
  | some inside, [] => .plain [style.delimiter] :: inside
  | some inside, some token :: rest => pairUp style (some (inside ++ [token])) rest
  | some inside, none :: rest => .span style (mergePlain inside) :: pairUp style none rest

mutual

/-- A token as seen from its level: plain text falls into pieces and delimiters; a span is one
    unit, with the delimiters inside it paired among themselves. -/
def Inline.atoms (style : Style) : Inline → List (Option Inline)
  | .plain text => plainAtoms (Text.splitOn [style.delimiter] text)
  | .span s children => [some (.span s (mergePlain (pairUp style none (atomsOf style children))))]
  | token => [some token]

/-- The tokens of one level as pieces and delimiters. -/
def atomsOf (style : Style) : List Inline → List (Option Inline)
  | [] => []
  | token :: rest => token.atoms style ++ atomsOf style rest

end

/-- The tokens with the delimiters of the style paired on every level. -/
def emphasize (style : Style) (tokens : List Inline) : List Inline :=
  mergePlain (pairUp style none (atomsOf style tokens))

/-! ## Symbols -/

/-- The tokens of a plain text with its symbols; `skip` characters belong to the symbol just
    found. -/
def symbolsGo : Nat → Chars → List Inline
  | _, [] => []
  | skip + 1, _ :: rest => symbolsGo skip rest
  | 0, c :: rest =>
    if trademarkText.isPrefixOf (c :: rest) then
      .trademark :: symbolsGo (trademarkText.length - 1) rest
    else if registeredText.isPrefixOf (c :: rest) then
      .registered :: symbolsGo (registeredText.length - 1) rest
    else consPlain [c] (symbolsGo 0 rest)

mutual

/-- A token with the symbols in its plain text found. -/
def Inline.splitSymbols : Inline → List Inline
  | .plain text => symbolsGo 0 text
  | .span style children => [.span style (splitAllSymbols children)]
  | token => [token]

/-- The tokens with the symbols in their plain text found. -/
def splitAllSymbols : List Inline → List Inline
  | [] => []
  | token :: rest => token.splitSymbols ++ splitAllSymbols rest

end

/-! ## Reading running text -/

/-- The tokens of running text. -/
def readInline (text : Chars) : List Inline :=
  splitAllSymbols
    (emphasize .monospaced (emphasize .italic (emphasize .bold (protectedSpans text))))

/-! ## Spelling -/

/-- A link in its usual form. -/
def spellLink (target : Chars) : Chars :=
  let (url, label) := unpackLink target
  '<' :: url ++ ' ' :: label ++ ['>']

mutual

/-- The text of a token. -/
def Inline.spell : Inline → Chars
  | .plain text => text
  | .link target => spellLink target
  | .mathInline source => '$' :: source ++ ['$']
  | .mathBlock source => "$$" ++ source ++ "$$"
  | .trademark => trademarkText
  | .registered => registeredText
  | .span style children => style.delimiter :: spellAll children ++ [style.delimiter]

/-- The text of tokens. -/
def spellAll : List Inline → Chars
  | [] => []
  | token :: rest => token.spell ++ spellAll rest

end

end ScriptReport.Script
