import Mathlib

/-!
# Percent encoding

A text, as the list of its scalars, is escaped by writing every scalar that may not stand for itself
as the bytes of its UTF-8 form, each byte as `%` and two hexadecimal digits. `unescape` reads such a
text back: it collects the bytes and decodes them.

A text whose `%` is escaped is always read back (`unescape_escape`). What stands in an escaped text
is known (`mem_escape`), so separators that are escaped may be put between escaped texts.
-/

namespace PercentEncoding

/-- The hexadecimal digit of a number below 16. -/
def hexDigit (n : Nat) : Char := if n < 10 then Char.ofNat (48 + n) else Char.ofNat (55 + n)

/-- The number that a hexadecimal digit stands for. -/
def hexValue (c : Char) : Option Nat :=
  if 48 ≤ c.toNat ∧ c.toNat ≤ 57 then some (c.toNat - 48)
  else if 65 ≤ c.toNat ∧ c.toNat ≤ 70 then some (c.toNat - 55)
  else if 97 ≤ c.toNat ∧ c.toNat ≤ 102 then some (c.toNat - 87)
  else none

def escapeByte (b : UInt8) : List Char :=
  ['%', hexDigit (b.toNat / 16), hexDigit (b.toNat % 16)]

/-- A scalar stands for itself if it is an ASCII character that `keep` allows. -/
def escapeChar (keep : Char → Bool) (c : Char) : List Char :=
  if keep c && decide (c.toNat < 128) then [c] else (String.utf8EncodeChar c).flatMap escapeByte

def escape (keep : Char → Bool) (text : List Char) : List Char := text.flatMap (escapeChar keep)

/-- The bytes of an escaped text; there are none if a `%` has not two digits after it. -/
def unescapeBytes : List Char → Option (List UInt8)
  | [] => some []
  | '%' :: high :: low :: rest => do
    let high ← hexValue high
    let low ← hexValue low
    let bytes ← unescapeBytes rest
    some (UInt8.ofNat (high * 16 + low) :: bytes)
  | '%' :: _ => none
  | c :: rest => do
    let bytes ← unescapeBytes rest
    some (String.utf8EncodeChar c ++ bytes)

/-- The text of which the bytes are the UTF-8 form. -/
def unescape (text : List Char) : Option (List Char) := do
  let bytes ← unescapeBytes text
  let chars ← bytes.toByteArray.utf8Decode?
  some chars.toList

/-! ## Digits -/

/-- A digit is read back. -/
lemma hexValue_hexDigit {n : Nat} (h : n < 16) : hexValue (hexDigit n) = some n := by
  interval_cases n <;> rfl

/-- A digit is a digit. -/
lemma hexDigit_isAlphanum {n : Nat} (h : n < 16) : (hexDigit n).isAlphanum = true := by
  interval_cases n <;> rfl

/-- The escaped form of a byte has three characters. -/
lemma mem_escapeByte {b : UInt8} {c : Char} (hc : c ∈ escapeByte b) :
    c = '%' ∨ c.isAlphanum = true := by
  have lt : b.toNat < 256 := b.toNat_lt
  rcases List.mem_cons.1 hc with rfl | hc
  · exact .inl rfl
  · rcases List.mem_cons.1 hc with rfl | hc
    · exact .inr (hexDigit_isAlphanum (by omega))
    · cases List.mem_singleton.1 hc
      exact .inr (hexDigit_isAlphanum (by omega))

/-- What stands in an escaped text is `%`, a letter or a digit, or stands for itself. -/
lemma mem_escape {keep : Char → Bool} {text : List Char} {c : Char} (hc : c ∈ escape keep text) :
    c = '%' ∨ c.isAlphanum = true ∨ keep c = true := by
  obtain ⟨d, _, hc⟩ := List.mem_flatMap.1 hc
  unfold escapeChar at hc
  split at hc
  · next kept =>
    cases List.mem_singleton.1 hc
    exact .inr (.inr (Bool.and_eq_true_iff.1 kept).1)
  · obtain ⟨b, _, hc⟩ := List.mem_flatMap.1 hc
    exact (mem_escapeByte hc).imp id .inl

/-! ## Reading back -/

/-- An escaped byte is read back, whatever follows. -/
lemma unescapeBytes_escapeByte (b : UInt8) (rest : List Char) :
    unescapeBytes (escapeByte b ++ rest) = (unescapeBytes rest).map (b :: ·) := by
  have lt : b.toNat < 256 := b.toNat_lt
  have value : UInt8.ofNat (b.toNat / 16 * 16 + b.toNat % 16) = b := by
    rw [Nat.div_add_mod' b.toNat 16, UInt8.ofNat_toNat]
  show unescapeBytes ('%' :: hexDigit _ :: hexDigit _ :: rest) = _
  rw [unescapeBytes, hexValue_hexDigit (by omega), hexValue_hexDigit (by omega)]
  cases unescapeBytes rest with
  | none => rfl
  | some bytes => exact congrArg (fun b => some (b :: bytes)) value

/-- Escaped bytes are read back, whatever follows. -/
lemma unescapeBytes_escapeBytes (bs : List UInt8) (rest : List Char) :
    unescapeBytes (bs.flatMap escapeByte ++ rest) = (unescapeBytes rest).map (bs ++ ·) := by
  induction bs with
  | nil => simp
  | cons b bs ih =>
    rw [List.flatMap_cons, List.append_assoc, unescapeBytes_escapeByte, ih, Option.map_map]
    rfl

/-- A character other than `%` is read as its UTF-8 form. -/
lemma unescapeBytes_cons {c : Char} (h : c ≠ '%') (rest : List Char) :
    unescapeBytes (c :: rest) = (unescapeBytes rest).map (String.utf8EncodeChar c ++ ·) := by
  rw [unescapeBytes]
  · cases unescapeBytes rest <;> rfl
  · exact fun _ _ _ e => absurd e h
  · exact h

section Escape
variable {keep : Char → Bool}

/-- An escaped character is read as its UTF-8 form, whatever follows. -/
lemma unescapeBytes_escapeChar (percent : keep '%' = false) (c : Char) (rest : List Char) :
    unescapeBytes (escapeChar keep c ++ rest) =
      (unescapeBytes rest).map (String.utf8EncodeChar c ++ ·) := by
  unfold escapeChar
  split
  · next kept =>
    apply unescapeBytes_cons
    rintro rfl
    rw [percent] at kept
    cases kept
  · exact unescapeBytes_escapeBytes _ rest

/-- An escaped text is read as its UTF-8 form. -/
lemma unescapeBytes_escape (percent : keep '%' = false) (text : List Char) :
    unescapeBytes (escape keep text) = some (text.flatMap String.utf8EncodeChar) := by
  induction text with
  | nil => rfl
  | cons c text ih =>
    have split : escape keep (c :: text) = escapeChar keep c ++ escape keep text := rfl
    rw [split, unescapeBytes_escapeChar percent, ih]
    rfl

/-- An escaped text is read back, if `%` does not stand for itself. -/
theorem unescape_escape (percent : keep '%' = false) (text : List Char) :
    unescape (escape keep text) = some text := by
  have decoded : (text.flatMap String.utf8EncodeChar).toByteArray.utf8Decode? = some text.toArray :=
    List.utf8Decode?_utf8Encode
  simp only [unescape, unescapeBytes_escape percent, Option.bind_eq_bind, Option.bind_some, decoded]

end Escape

end PercentEncoding
