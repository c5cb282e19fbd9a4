/-
  ScriptReport.Proofs.Html.Nesting

  Tags are nested if each closing tag closes the latest element that is open. A passage of a page is
  a text with the markup in it, the elements that have to be open before it, and those that are open
  after it. Passages are put together from smaller ones: one after another, and around a passage an
  element.
-/

import ScriptReport.Proofs.Html.Markup

namespace ScriptReport.Html

/-! ## Elements that are open -/

/-- The elements that have no closing tag. -/
def voidElements : List Chars := ["meta", "img"]

/-- The elements that are open after the markup, the latest first, if every closing tag closes the
    latest element that is open. -/
def nest : List Chars → List Markup → Option (List Chars)
  | elements, [] => some elements
  | elements, .opening name _ :: rest =>
    if voidElements.contains name then nest elements rest else nest (name :: elements) rest
  | element :: elements, .closing name :: rest =>
    if name = element then nest elements rest else none
  | [], .closing _ :: _ => none
  | elements, .doctype :: rest => nest elements rest
  | elements, .comment _ :: rest => nest elements rest

theorem nest_append (elements : List Chars) (ms ns : List Markup) :
    nest elements (ms ++ ns) = (nest elements ms).bind (nest · ns) := by
  induction elements, ms using nest.induct with
  | case1 elements => cases ns <;> rfl
  | case2 elements name attributes rest hvoid ih =>
    simp only [List.cons_append, nest, if_pos hvoid, ih]
  | case3 elements name attributes rest hvoid ih =>
    simp only [List.cons_append, nest, if_neg hvoid, ih]
  | case4 element elements rest ih => simp [nest, ih]
  | case5 element elements name rest hne => simp [nest, hne]
  | case6 name rest => simp [nest]
  | case7 elements rest ih => simp [nest, ih]
  | case8 elements text rest ih => simp [nest, ih]

/-! ## Passages -/

/-- The text holds the markup `ms`. Where the elements `before` are open in front of it, the latest
    first, and any others around them, the elements `after` are open in their place behind it. -/
structure Passage (before : List Chars) (text : Chars) (ms : List Markup) (after : List Chars) :
    Prop where
  read : markup? text = some ms
  nested : ∀ elements, nest (before ++ elements) ms = some (after ++ elements)

/-- Passages one after another do not get in each other's way. -/
theorem Passage.append {before middle after : List Chars} {a b : Chars} {ms ns : List Markup}
    (ha : Passage before a ms middle) (hb : Passage middle b ns after) :
    Passage before (a ++ b) (ms ++ ns) after where
  read := by rw [markup?_append ha.read, hb.read, Option.map_some]
  nested := by
    intro elements
    rw [nest_append, ha.nested, Option.bind_some, hb.nested]

/-- A passage stays one inside of more elements. -/
theorem Passage.within {before after : List Chars} {text : Chars} {ms : List Markup}
    (h : Passage before text ms after) (outer : List Chars) :
    Passage (before ++ outer) text ms (after ++ outer) where
  read := h.read
  nested := by
    intro elements
    rw [List.append_assoc, h.nested, List.append_assoc]

variable {elements : List Chars} {name text : Chars} {attributes : List (Chars × Chars)}
  {ms : List Markup}

/-- Text without angle brackets is a passage anywhere. -/
theorem passage_of_isPlain (h : IsPlain text) : Passage elements text [] elements where
  read := markup?_of_isPlain h
  nested := fun _ => rfl

theorem passage_nil : Passage elements [] [] elements := passage_of_isPlain isPlain_nil

theorem passage_openingText (hname : isName name = true) (h : ∀ a ∈ attributes, IsWritable a)
    (hvoid : voidElements.contains name = false) :
    Passage elements (openingText name attributes)
      [.opening name (attributes.map fun a => (a.1, some a.2))] (name :: elements) where
  read := markup?_openingText hname h
  nested := by
    intro outer
    rw [nest, hvoid, if_neg Bool.false_ne_true]
    rfl

theorem passage_void (hname : isName name = true) (h : ∀ a ∈ attributes, IsWritable a)
    (hvoid : voidElements.contains name = true) :
    Passage elements (openingText name attributes)
      [.opening name (attributes.map fun a => (a.1, some a.2))] elements where
  read := markup?_openingText hname h
  nested := by
    intro outer
    rw [nest, if_pos hvoid]
    rfl

theorem passage_closingText (hname : isName name = true) :
    Passage (name :: elements) (closingText name) [.closing name] elements where
  read := markup?_closingText hname
  nested := by
    intro outer
    rw [List.cons_append, nest, if_pos rfl]
    rfl

/-- Passages between which the same elements are open make a passage together. -/
theorem passage_concatMap {α : Type} {f : α → Chars} {g : α → List Markup} {xs : List α}
    (h : ∀ x ∈ xs, Passage elements (f x) (g x) elements) :
    Passage elements (Text.concatMap f xs) (xs.flatMap g) elements := by
  induction xs with
  | nil => exact passage_nil
  | cons x rest ih =>
    rw [List.flatMap_cons]
    exact (h x List.mem_cons_self).append (ih fun y hy => h y (List.mem_cons_of_mem x hy))

/-- An element, from what is in it. -/
def element (name : Chars) (attributes : List (Chars × Chars)) (inside : List Markup) :
    List Markup :=
  .opening name (attributes.map fun a => (a.1, some a.2)) :: (inside ++ [.closing name])

/-- An element, as it is written. -/
def elementText (name : Chars) (attributes : List (Chars × Chars)) (inside : Chars) : Chars :=
  openingText name attributes ++ (inside ++ closingText name)

theorem Passage.element (h : Passage (name :: elements) text ms (name :: elements))
    (hname : isName name = true) (hattrs : ∀ a ∈ attributes, IsWritable a)
    (hvoid : voidElements.contains name = false) :
    Passage elements (elementText name attributes text) (element name attributes ms) elements :=
  (passage_openingText hname hattrs hvoid).append (h.append (passage_closingText hname))

/-- A line end does not change the markup. -/
theorem Passage.line {before after : List Chars} (h : Passage before text ms after) :
    Passage before (text ++ "\n") ms after := by
  have hline := h.append (passage_of_isPlain (show IsPlain "\n" by decide))
  rwa [List.append_nil] at hline

end ScriptReport.Html
