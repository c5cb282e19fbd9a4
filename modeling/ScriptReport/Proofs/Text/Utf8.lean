/-
  ScriptReport.Proofs.Text.Utf8

  The octets of a character are read back as the character, whatever comes behind them; so the octets
  of a text are read back as the text (`decode_encode`).
-/

import ScriptReport.Text.Utf8
import Mathlib.Data.List.TakeWhile
import Mathlib.Tactic.SplitIfs

namespace ScriptReport.Text.Utf8

/-! ## Octets as numbers -/

theorem toNat_octet {n : Nat} (h : n < 256) : (octet n).toNat = n := by
  rw [octet, UInt8.toNat_ofNat', Nat.mod_eq_of_lt h]

theorem octet_lt_iff {n m : Nat} (hn : n < 256) (hm : m < 256) : octet n < octet m ↔ n < m := by
  rw [UInt8.lt_iff_toNat_lt, toNat_octet hn, toNat_octet hm]

theorem octet_le_iff {n m : Nat} (hn : n < 256) (hm : m < 256) : octet n ≤ octet m ↔ n ≤ m := by
  rw [UInt8.le_iff_toNat_le, toNat_octet hn, toNat_octet hm]

theorem octet_inj {n m : Nat} (hn : n < 256) (hm : m < 256) : octet n = octet m ↔ n = m := by
  rw [← UInt8.toNat_inj, toNat_octet hn, toNat_octet hm]

/-- How many octets a character has whose first octet has the number. -/
theorem size?_octet {n : Nat} (h : n < 256) :
    size? (octet n) = if n < 0x80 then some 1 else if n < 0xC2 then none else if n < 0xE0 then some 2
      else if n < 0xF0 then some 3 else if n < 0xF5 then some 4 else none := by
  unfold size?
  simp only [show (0x80 : UInt8) = octet 0x80 from rfl, show (0xC2 : UInt8) = octet 0xC2 from rfl,
    show (0xE0 : UInt8) = octet 0xE0 from rfl, show (0xF0 : UInt8) = octet 0xF0 from rfl,
    show (0xF5 : UInt8) = octet 0xF5 from rfl, octet_lt_iff h (by decide : 0x80 < 256),
    octet_lt_iff h (by decide : 0xC2 < 256), octet_lt_iff h (by decide : 0xE0 < 256),
    octet_lt_iff h (by decide : 0xF0 < 256), octet_lt_iff h (by decide : 0xF5 < 256)]

theorem isTail_octet {n : Nat} (h : n < 64) : isTail (octet (0x80 + n)) = true := by
  rw [isTail, show (0x80 : UInt8) = octet 0x80 from rfl, show (0xBF : UInt8) = octet 0xBF from rfl,
    Bool.and_eq_true, decide_eq_true_iff, decide_eq_true_iff, octet_le_iff (by decide) (by omega),
    octet_le_iff (by omega) (by decide)]
  omega

theorem isSecond_octet {first n : Nat} (hfirst : first < 256) (h : n < 64)
    (hE0 : first = 0xE0 → 0x20 ≤ n) (hED : first = 0xED → n < 0x20) (hF0 : first = 0xF0 → 0x10 ≤ n)
    (hF4 : first = 0xF4 → n < 0x10) : isSecond (octet first) (octet (0x80 + n)) = true := by
  rw [isSecond, isTail_octet h, Bool.true_and]
  simp only [show (0xE0 : UInt8) = octet 0xE0 from rfl, show (0xED : UInt8) = octet 0xED from rfl,
    show (0xF0 : UInt8) = octet 0xF0 from rfl, show (0xF4 : UInt8) = octet 0xF4 from rfl,
    octet_inj hfirst (by decide : 0xE0 < 256), octet_inj hfirst (by decide : 0xED < 256),
    octet_inj hfirst (by decide : 0xF0 < 256), octet_inj hfirst (by decide : 0xF4 < 256)]
  simp only [show (0xA0 : UInt8) = octet 0xA0 from rfl, show (0x9F : UInt8) = octet 0x9F from rfl,
    show (0x90 : UInt8) = octet 0x90 from rfl, show (0x8F : UInt8) = octet 0x8F from rfl]
  have hoctet : 0x80 + n < 256 := by omega
  split_ifs with h1 h2 h3 h4
  · have hn := hE0 h1
    exact decide_eq_true ((octet_le_iff (by decide) hoctet).mpr (by omega))
  · have hn := hED h2
    exact decide_eq_true ((octet_le_iff hoctet (by decide)).mpr (by omega))
  · have hn := hF0 h3
    exact decide_eq_true ((octet_le_iff (by decide) hoctet).mpr (by omega))
  · have hn := hF4 h4
    exact decide_eq_true ((octet_le_iff hoctet (by decide)).mpr (by omega))
  · rfl

/-! ## Characters -/

/-- The octets make up one character. -/
structure IsCharacter (c : Char) (first : UInt8) (tails : Octets) : Prop where
  size : size? first = some (tails.length + 1)
  fits : ∀ rest, fitting first tails.length (tails ++ rest) = tails.length
  assembles : assemble first tails = c

theorem fitting_of_tails {first second : UInt8} {more : Octets}
    (hsecond : isSecond first second = true) (hmore : ∀ b ∈ more, isTail b = true) (rest : Octets) :
    fitting first (more.length + 1) (second :: more ++ rest) = more.length + 1 := by
  have htake : (more ++ rest).take more.length = more := List.take_left
  have hall : more.takeWhile isTail = more := List.takeWhile_eq_self_iff.mpr hmore
  rw [List.cons_append, fitting, hsecond, Nat.add_sub_cancel, htake, hall]
  simp
  omega

/-- A number below 64 in a tail counts as it is. -/
theorem toNat_tail_mod {x : Nat} (h : x < 64) : (octet (0x80 + x)).toNat % 64 = x := by
  rw [toNat_octet (by omega)]
  omega

theorem isCharacter_one {c : Char} (h : c.toNat < 0x80) : IsCharacter c (octet c.toNat) [] where
  size := by
    rw [size?_octet (by omega), if_pos h]
    rfl
  fits rest := by cases rest <;> simp [fitting]
  assembles := by
    rw [assemble]
    simp only [List.length_nil, List.foldl_nil, toNat_octet (show c.toNat < 256 by omega)]
    exact Char.ofNat_toNat c

variable {c : Char} {lead x y z : Nat}

theorem isCharacter_two (hc : c.toNat = lead * 64 + x) (hlow : 0x80 ≤ c.toNat) (hlead : lead < 32)
    (hx : x < 64) : IsCharacter c (octet (0xC0 + lead)) [octet (0x80 + x)] where
  size := by
    rw [size?_octet (by omega), if_neg (by omega), if_neg (by omega), if_pos (by omega)]
    rfl
  fits := by
    have hsecond : isSecond (octet (0xC0 + lead)) (octet (0x80 + x)) = true :=
      isSecond_octet (by omega) hx (by omega) (by omega) (by omega) (by omega)
    exact fitting_of_tails hsecond fun _ h => absurd h List.not_mem_nil
  assembles := by
    have hfirst : (octet (0xC0 + lead)).toNat % 32 = lead := by
      rw [toNat_octet (by omega)]
      omega
    rw [assemble]
    simp only [List.length_singleton, List.foldl_cons, List.foldl_nil, hfirst, toNat_tail_mod hx, ← hc]
    exact Char.ofNat_toNat c

theorem isCharacter_three (hc : c.toNat = (lead * 64 + x) * 64 + y) (hlow : 0x800 ≤ c.toNat)
    (hlead : lead < 16) (hx : x < 64) (hy : y < 64) :
    IsCharacter c (octet (0xE0 + lead)) [octet (0x80 + x), octet (0x80 + y)] where
  size := by
    rw [size?_octet (by omega), if_neg (by omega), if_neg (by omega), if_neg (by omega),
      if_pos (by omega)]
    rfl
  fits := by
    -- no character is a surrogate
    have hvalid : c.toNat < 0xD800 ∨ 0xDFFF < c.toNat ∧ c.toNat < 0x110000 := c.valid
    have hsecond : isSecond (octet (0xE0 + lead)) (octet (0x80 + x)) = true :=
      isSecond_octet (by omega) hx (by omega) (by omega) (by omega) (by omega)
    refine fitting_of_tails hsecond fun b hb => ?_
    rw [List.mem_singleton.mp hb]
    exact isTail_octet hy
  assembles := by
    have hfirst : (octet (0xE0 + lead)).toNat % 16 = lead := by
      rw [toNat_octet (by omega)]
      omega
    rw [assemble]
    simp only [List.length_cons, List.length_nil, List.foldl_cons, List.foldl_nil, hfirst,
      toNat_tail_mod hx, toNat_tail_mod hy, ← hc]
    exact Char.ofNat_toNat c

theorem isCharacter_four (hc : c.toNat = ((lead * 64 + x) * 64 + y) * 64 + z)
    (hlow : 0x10000 ≤ c.toNat) (hx : x < 64) (hy : y < 64) (hz : z < 64) :
    IsCharacter c (octet (0xF0 + lead))
      [octet (0x80 + x), octet (0x80 + y), octet (0x80 + z)] := by
  have hvalid : c.toNat < 0xD800 ∨ 0xDFFF < c.toNat ∧ c.toNat < 0x110000 := c.valid
  refine ⟨?_, ?_, ?_⟩
  · rw [size?_octet (by omega), if_neg (by omega), if_neg (by omega), if_neg (by omega),
      if_neg (by omega), if_pos (by omega)]
    rfl
  · have hsecond : isSecond (octet (0xF0 + lead)) (octet (0x80 + x)) = true :=
      isSecond_octet (by omega) hx (by omega) (by omega) (by omega) (by omega)
    refine fitting_of_tails hsecond fun b hb => ?_
    simp only [List.mem_cons, List.not_mem_nil, or_false] at hb
    rcases hb with rfl | rfl
    · exact isTail_octet hy
    · exact isTail_octet hz
  · have hfirst : (octet (0xF0 + lead)).toNat % 8 = lead := by
      rw [toNat_octet (by omega)]
      omega
    rw [assemble]
    simp only [List.length_cons, List.length_nil, List.foldl_cons, List.foldl_nil, hfirst,
      toNat_tail_mod hx, toNat_tail_mod hy, toNat_tail_mod hz, ← hc]
    exact Char.ofNat_toNat c

/-- The octets of a character make up this character. -/
theorem exists_of_encodeChar (c : Char) :
    ∃ first tails, encodeChar c = first :: tails ∧ IsCharacter c first tails := by
  have hlow {m : Nat} : m % 64 < 64 := Nat.mod_lt _ (by decide)
  have hvalid : c.toNat < 0xD800 ∨ 0xDFFF < c.toNat ∧ c.toNat < 0x110000 := c.valid
  rw [encodeChar]
  rcases Nat.lt_or_ge c.toNat 0x80 with h1 | h1
  · rw [if_pos h1]
    exact ⟨_, _, rfl, isCharacter_one h1⟩
  rw [if_neg (by omega)]
  rcases Nat.lt_or_ge c.toNat 0x800 with h2 | h2
  · rw [if_pos h2]
    exact ⟨_, _, rfl, isCharacter_two (by omega) h1 (by omega) hlow⟩
  rw [if_neg (by omega)]
  rcases Nat.lt_or_ge c.toNat 0x10000 with h3 | h3
  · rw [if_pos h3]
    exact ⟨_, _, rfl, isCharacter_three (by omega) h2 (by omega) hlow hlow⟩
  · rw [if_neg (by omega)]
    exact ⟨_, _, rfl, isCharacter_four (by omega) h3 hlow hlow hlow⟩

/-! ## Texts -/

theorem encode_cons (c : Char) (text : Chars) : encode (c :: text) = encodeChar c ++ encode text := rfl

/-- Octets that belong to the character before are passed over. -/
theorem decodeFrom_append (position : Nat) (skipped rest : Octets) :
    decodeFrom position skipped.length (skipped ++ rest) =
      decodeFrom (position + skipped.length) 0 rest := by
  induction skipped generalizing position with
  | nil => rfl
  | cons b skipped ih =>
    rw [List.length_cons, List.cons_append, decodeFrom, ih, Nat.add_assoc, Nat.add_comm 1]

theorem decodeFrom_encode (position : Nat) (text : Chars) :
    decodeFrom position 0 (encode text) = .ok text := by
  induction text generalizing position with
  | nil => rfl
  | cons c text ih =>
    obtain ⟨first, tails, hoctets, hchar⟩ := exists_of_encodeChar c
    rw [encode_cons, hoctets, List.cons_append, decodeFrom, hchar.size]
    simp only [Nat.add_sub_cancel, hchar.fits, if_true, decodeFrom_append, ih, List.take_left,
      hchar.assembles]

/-- What is written in UTF-8 is read as it was. -/
theorem decode_encode (text : Chars) : decode (encode text) = .ok text := decodeFrom_encode 0 text

end ScriptReport.Text.Utf8
