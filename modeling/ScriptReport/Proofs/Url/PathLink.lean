/-
  ScriptReport.Proofs.Url.PathLink

  A path in a link. Percent-encoding a path and decoding it gives the path again, whatever its
  characters are (`decode_encode`); and an encoded path is read as a location that is nothing but
  this path (`split_of_isLinkChar`), since none of the marks of a location is left as it is.
-/

import Mathlib
import ScriptReport.Proofs.Text.Occurrence
import ScriptReport.Proofs.Text.Utf8
import ScriptReport.Url.Percent
import ScriptReport.Url.Authority

namespace ScriptReport.Url

open ScriptReport.Text (Octets)

/-! ## Octets and digits -/

theorem hexDigit?_hexDigit : ∀ n < 16, Text.hexDigit? (hexDigit n) = some n := by decide

theorem decodeOctets_encodeOctet (b : UInt8) (rest : Chars) :
    decodeOctets (encodeOctet b ++ rest) = b :: decodeOctets rest := by
  have hb : b.toNat < 256 := b.toNat_lt
  have hhigh := hexDigit?_hexDigit (b.toNat / 16) (by omega)
  have hlow := hexDigit?_hexDigit (b.toNat % 16) (by omega)
  have hvalue : b.toNat / 16 * 16 + b.toNat % 16 = b.toNat := by omega
  rw [encodeOctet, List.cons_append, List.cons_append, List.cons_append, List.nil_append,
    decodeOctets, hhigh, hlow]
  simp only [hvalue, UInt8.ofNat_toNat]

theorem decodeOctets_concatMap (octets : Octets) (rest : Chars) :
    decodeOctets (Text.concatMap encodeOctet octets ++ rest) = octets ++ decodeOctets rest := by
  induction octets with
  | nil => rfl
  | cons b octets ih =>
    have hcons : Text.concatMap encodeOctet (b :: octets) =
        encodeOctet b ++ Text.concatMap encodeOctet octets := rfl
    rw [hcons, List.append_assoc, decodeOctets_encodeOctet, ih, List.cons_append]

theorem decodeOctets_cons {c : Char} (h : c ≠ '%') (rest : Chars) :
    decodeOctets (c :: rest) = Text.Utf8.encodeChar c ++ decodeOctets rest := by
  rw [decodeOctets]
  simp [h]

theorem encodeBut_cons (kept : Chars) (c : Char) (text : Chars) :
    encodeBut kept (c :: text) =
      (if isUnreserved c || kept.contains c then [c]
       else Text.concatMap encodeOctet (Text.Utf8.encodeChar c)) ++ encodeBut kept text := rfl

theorem encode_append (a b : Chars) : encode (a ++ b) = encode a ++ encode b := by
  simp only [encode, encodeBut, Text.concatMap, List.map_append, List.flatten_append]

/-- Encoding keeps the octets of a text, whatever characters are left as they are. -/
theorem decodeOctets_encodeBut {kept : Chars} (hkept : '%' ∉ kept) (text : Chars) :
    decodeOctets (encodeBut kept text) = Text.Utf8.encode text := by
  induction text with
  | nil => rw [show encodeBut kept [] = [] from rfl, decodeOctets]; rfl
  | cons c text ih =>
    have hoctets : Text.Utf8.encode (c :: text) =
        Text.Utf8.encodeChar c ++ Text.Utf8.encode text := rfl
    rw [encodeBut_cons, hoctets, ← ih]
    split_ifs with hcase
    · -- a percent sign is never left as it is
      have hc : c ≠ '%' := by
        rintro rfl
        rw [List.contains_iff_mem.not.mpr hkept |> Bool.eq_false_iff.mpr] at hcase
        exact absurd hcase (by decide)
      exact decodeOctets_cons hc _
    · exact decodeOctets_concatMap _ _

/-- Octets of characters are no malformed stretches. -/
theorem decodeReplacing_encode (text : Chars) : decodeReplacing (Text.Utf8.encode text) = text := by
  induction text with
  | nil =>
    rw [show Text.Utf8.encode [] = [] from rfl, decodeReplacing]
  | cons c text ih =>
    obtain ⟨first, tails, hoctets, hchar⟩ := Text.Utf8.exists_of_encodeChar c
    have hcons : Text.Utf8.encode (c :: text) = first :: (tails ++ Text.Utf8.encode text) := by
      rw [show Text.Utf8.encode (c :: text) = Text.Utf8.encodeChar c ++ Text.Utf8.encode text from rfl,
        hoctets, List.cons_append]
    have hfits := hchar.fits (Text.Utf8.encode text)
    rw [hcons, decodeReplacing, hchar.size]
    simp only [Nat.add_sub_cancel, hfits, if_true, List.take_left, List.drop_left, hchar.assembles, ih]

/-- A path that is encoded and decoded is the same path. -/
theorem decode_encode (path : Chars) : decode (encode path) = path := by
  rw [decode, encode, decodeOctets_encodeBut (by decide), decodeReplacing_encode]

/-! ## Links as locations -/

/-- The location that is nothing but a path. -/
def Location.ofPath (path : Chars) : Location :=
  { scheme := [], host := [], path, query := [], fragment := [] }

/-- A character that can stand in an encoded path. -/
def isLinkChar (c : Char) : Bool := isUnreserved c || c = '/' || c = '%'

theorem isLinkChar_of_mem_encode {c : Char} {path : Chars} (h : c ∈ encode path) :
    isLinkChar c = true := by
  have hdigit : ∀ n < 16, isLinkChar (hexDigit n) = true := by decide
  simp only [encode, encodeBut, Text.concatMap, List.mem_flatten, List.mem_map] at h
  obtain ⟨part, ⟨x, hx, rfl⟩, hc⟩ := h
  split_ifs at hc with hcase
  · rw [List.mem_singleton.mp hc, isLinkChar, Bool.or_assoc, Bool.or_eq_true]
    rw [Bool.or_eq_true] at hcase
    refine hcase.imp_right fun hslash => ?_
    rw [List.contains_iff_mem, List.mem_singleton] at hslash
    simp [hslash]
  · simp only [List.mem_flatten, List.mem_map] at hc
    obtain ⟨digits, ⟨b, -, rfl⟩, hc⟩ := hc
    have hb : b.toNat < 256 := b.toNat_lt
    simp only [encodeOctet, List.mem_cons, List.not_mem_nil, or_false] at hc
    rcases hc with rfl | rfl | rfl
    · decide
    · exact hdigit _ (by omega)
    · exact hdigit _ (by omega)

/-- A character that is no letter and no mark of links is not in a link. -/
theorem not_mem_of_isLinkChar {text : Chars} (h : ∀ c ∈ text, isLinkChar c = true) {c : Char}
    (hc : isLinkChar c = false) : c ∉ text := fun hmem => by
  rw [h c hmem] at hc
  cases hc

theorem lt_toNat_of_isLinkChar {c : Char} (h : isLinkChar c = true) : 32 < c.toNat := by
  simp only [isLinkChar, isUnreserved, Char.isAlphanum, Char.isAlpha, Char.isUpper, Char.isLower,
    Char.isDigit, Bool.or_eq_true, Bool.and_eq_true, decide_eq_true_eq, ge_iff_le,
    UInt32.le_iff_toNat_le] at h
  change 32 < c.val.toNat
  rcases h with (((((((h | h) | h) | rfl) | rfl) | rfl) | rfl) | rfl) | rfl
  · exact Nat.lt_of_lt_of_le (by decide) h.1
  · exact Nat.lt_of_lt_of_le (by decide) h.1
  · exact Nat.lt_of_lt_of_le (by decide) h.1
  all_goals decide

/-- A link is not changed by cleaning. -/
theorem cleaned_of_isLinkChar {text : Chars} (h : ∀ c ∈ text, isLinkChar c = true) :
    cleaned text = text := by
  have hfront : text.dropWhile (fun c => decide (c.toNat ≤ 32)) = text := by
    cases text with
    | nil => rfl
    | cons c rest =>
      have hc := lt_toNat_of_isLinkChar (h c List.mem_cons_self)
      exact List.dropWhile_cons_of_neg (by simpa using hc)
  rw [cleaned, hfront]
  refine List.filter_eq_self.mpr fun c hc => ?_
  have hnot {x : Char} (hx : x.toNat ≤ 32) : c ≠ x := by
    rintro rfl
    exact absurd (lt_toNat_of_isLinkChar (h c hc)) (Nat.not_lt.mpr hx)
  simp [hnot (x := '\t') (by decide), hnot (x := '\r') (by decide), hnot (x := '\n') (by decide)]

theorem split_of_isLinkChar {text : Chars} (h : ∀ c ∈ text, isLinkChar c = true)
    (hslashes : ¬ ("//" : Chars) <+: text) :
    split text = .ok (.ofPath text) := by
  have hcut {c : Char} (hc : isLinkChar c = false) : cutOr c text = (text, []) := by
    rw [cutOr, Text.cutAt?_eq_none_iff.mpr (not_mem_of_isLinkChar h hc)]
    rfl
  have hscheme : cutScheme text = ([], text) := by
    rw [cutScheme, Text.cutAt?_eq_none_iff.mpr (not_mem_of_isLinkChar h (by decide))]
  rw [split, cleaned_of_isLinkChar h, hscheme]
  dsimp only
  split
  · next rest => exact absurd (List.prefix_append ['/', '/'] rest) hslashes
  · dsimp only
    rw [hcut (show isLinkChar '#' = false by decide)]
    dsimp only
    rw [hcut (show isLinkChar '?' = false by decide)]
    rfl

/-- A location without a host stays without one. -/
theorem withAsciiHost_ofPath (path : Chars) :
    (Location.ofPath path).withAsciiHost = .ok (.ofPath path) := by
  have hascii : (Authority.ofText []).ascii = .ok [] := by cbv
  rw [Location.withAsciiHost, show (Location.ofPath path).host = [] from rfl, hascii]
  rfl

end ScriptReport.Url
