import Mathlib

/-!
# Data and streams

`Data(text.utf8)` and its inverse, and the streams that bodies are read from and written to. A
stream may deliver its bytes in pieces of any size and may fail after any of them; a file may take
any part of what it is given and may fail at any write.
-/

namespace TimeCapsule.Foundation

/-- `Data(string.utf8)`. -/
def utf8 (string : String) : List UInt8 := string.toList.flatMap String.utf8EncodeChar

/-- `String(data:encoding:)` for UTF-8. -/
def ofUTF8 (data : List UInt8) : Option String :=
  data.toByteArray.utf8Decode?.map fun chars => String.ofList chars.toList

lemma ofUTF8_utf8 (string : String) : ofUTF8 (utf8 string) = some string := by
  have decoded : (utf8 string).toByteArray.utf8Decode? = some string.toList.toArray :=
    List.utf8Decode?_utf8Encode
  rw [ofUTF8, decoded, Option.map_some, List.toList_toArray, String.ofList_toList]

lemma utf8_append (s t : String) : utf8 (s ++ t) = utf8 s ++ utf8 t := by
  rw [utf8, String.toList_append, List.flatMap_append]
  rfl

/-- A byte below 128 is the character that it stands for. -/
lemma eq_of_mem_utf8EncodeChar {b : UInt8} {c : Char} (ascii : b.toNat < 128)
    (hb : b ∈ String.utf8EncodeChar c) : String.utf8EncodeChar c = [b] ∧ c.toNat = b.toNat := by
  have value : ∀ n : Nat, (UInt8.ofNat n).toNat = n % 256 := fun n => UInt8.toNat_ofNat'
  rw [String.utf8EncodeChar] at hb ⊢
  split at hb
  · next le =>
    rw [if_pos le]
    rw [List.mem_singleton] at hb
    subst hb
    refine ⟨rfl, ?_⟩
    rw [value]
    show c.val.toNat = c.val.toNat % 256
    omega
  · exfalso
    split at hb
    · simp only [List.mem_cons, List.not_mem_nil, or_false] at hb
      rcases hb with rfl | rfl <;> rw [value] at ascii <;> omega
    · split at hb
      · simp only [List.mem_cons, List.not_mem_nil, or_false] at hb
        rcases hb with rfl | rfl | rfl <;> rw [value] at ascii <;> omega
      · simp only [List.mem_cons, List.not_mem_nil, or_false] at hb
        rcases hb with rfl | rfl | rfl | rfl <;> rw [value] at ascii <;> omega

/-- A text has the byte of an ASCII character only if it has the character. -/
lemma mem_of_mem_utf8 {string : String} {b : UInt8} (ascii : b.toNat < 128)
    (hb : b ∈ utf8 string) : Char.ofNat b.toNat ∈ string.toList := by
  obtain ⟨c, hc, hb⟩ := List.mem_flatMap.1 hb
  rw [← (eq_of_mem_utf8EncodeChar ascii hb).2, Char.ofNat_toNat]
  exact hc

/-! ## Reading -/

/-- The pieces that a stream has yet to deliver, and whether it fails after them. -/
structure InputStream where
  pieces : List (List UInt8)
  nonempty : ∀ piece ∈ pieces, piece ≠ []
  failure : Option String

namespace InputStream

/-- `InputStream(data:)`. -/
def ofData (data : List UInt8) : InputStream where
  pieces := [data].filter (!·.isEmpty)
  nonempty := by simp
  failure := none

def bytes (s : InputStream) : List UInt8 := s.pieces.flatten

def hasBytesAvailable (s : InputStream) : Bool := !s.pieces.isEmpty || s.failure.isSome

/-- The bytes of one `read`, at most `maxLength`, and the stream after it. -/
def read (s : InputStream) (maxLength : Nat) : Except String (List UInt8 × InputStream) :=
  match h : s.pieces with
  | [] =>
    match s.failure with
    | some error => .error error
    | none => .ok ([], s)
  | piece :: pieces =>
    if le : piece.length ≤ maxLength then
      .ok (piece, ⟨pieces, fun p hp => s.nonempty p (h ▸ List.mem_cons_of_mem _ hp), s.failure⟩)
    else
      .ok (piece.take maxLength, ⟨piece.drop maxLength :: pieces, fun p hp => by
        rcases List.mem_cons.1 hp with rfl | hp
        · rw [Ne, List.drop_eq_nil_iff]
          exact le
        · exact s.nonempty p (h ▸ List.mem_cons_of_mem _ hp), s.failure⟩)

@[simp]
lemma bytes_ofData (data : List UInt8) : (ofData data).bytes = data := by
  cases data with
  | nil => rfl
  | cons b data => simp [ofData, bytes]

/-- A stream with nothing left fails, or gives nothing. -/
lemma read_nil {s : InputStream} (done : s.pieces = []) (maxLength : Nat) :
    s.read maxLength = match s.failure with
      | some error => .error error
      | none => .ok ([], s) := by
  unfold read
  split
  · rfl
  · next found => cases done.symm.trans found

/-- A stream with pieces left gives some of the bytes that are left. -/
lemma read_pieces {s : InputStream} (left : s.pieces ≠ []) {maxLength : Nat} (pos : 0 < maxLength) :
    ∃ buffer s', s.read maxLength = .ok (buffer, s') ∧ 0 < buffer.length ∧
      buffer.length ≤ maxLength ∧ buffer ++ s'.bytes = s.bytes ∧ s'.failure = s.failure := by
  unfold read
  split
  · next done => exact absurd done left
  · next piece pieces found =>
    have filled : 0 < piece.length := by
      apply List.length_pos_iff.2
      apply s.nonempty
      rw [found]
      exact List.mem_cons_self
    have all : s.bytes = piece ++ pieces.flatten := by rw [bytes, found, List.flatten_cons]
    split
    · next le => exact ⟨_, _, rfl, filled, le, all.symm, rfl⟩
    · next gt =>
      refine ⟨_, _, rfl, ?_, ?_, ?_, rfl⟩
      · rw [List.length_take]
        omega
      · rw [List.length_take]
        omega
      · rw [all, bytes, List.flatten_cons, ← List.append_assoc, List.take_append_drop]

lemma hasBytesAvailable_iff (s : InputStream) :
    s.hasBytesAvailable = true ↔ s.pieces ≠ [] ∨ s.failure ≠ none := by
  rw [hasBytesAvailable, Bool.or_eq_true, Bool.not_eq_true', List.isEmpty_eq_false_iff,
    Option.isSome_iff_ne_none]

lemma bytes_eq_nil_iff (s : InputStream) : s.bytes = [] ↔ s.pieces = [] := by
  rw [bytes, List.flatten_eq_nil_iff]
  constructor
  · intro none
    apply List.eq_nil_iff_forall_not_mem.2
    exact fun piece mem => s.nonempty piece mem (none piece mem)
  · intro none piece mem
    rw [none] at mem
    cases mem

end InputStream

/-! ## Writing -/

/-- What a file has taken, and how it answers the next writes: it takes one byte more than the
number, or fails. -/
structure OutputStream where
  written : List UInt8
  answers : List (Option Nat)

namespace OutputStream

/-- One `write`: the number of bytes that are taken, and the stream after it. -/
def write (s : OutputStream) (buffer : List UInt8) : Except String (Nat × OutputStream) :=
  match s.answers with
  | [] => .ok (buffer.length, ⟨s.written ++ buffer, []⟩)
  | some n :: answers =>
    let bytesWritten := min (n + 1) buffer.length
    .ok (bytesWritten, ⟨s.written ++ buffer.take bytesWritten, answers⟩)
  | none :: _ => .error "outputStream"

/-- No write fails. -/
def Reliable (s : OutputStream) : Prop := none ∉ s.answers

/-- A write takes some of the bytes, or fails. -/
lemma write_cases (s : OutputStream) {buffer : List UInt8} (pos : 0 < buffer.length) :
    (∃ n s', s.write buffer = .ok (n, s') ∧ 0 < n ∧ n ≤ buffer.length ∧
      s'.written = s.written ++ buffer.take n ∧ (s.Reliable → s'.Reliable)) ∨
    (∃ error, s.write buffer = .error error) ∧ ¬ s.Reliable := by
  obtain ⟨written, answers⟩ := s
  cases answers with
  | nil =>
    refine .inl ⟨_, _, rfl, pos, Nat.le_refl _, ?_, id⟩
    rw [List.take_length]
  | cons answer answers =>
    cases answer with
    | none => exact .inr ⟨⟨_, rfl⟩, fun reliable => reliable List.mem_cons_self⟩
    | some n =>
      refine .inl ⟨_, _, rfl, ?_, Nat.min_le_right _ _, rfl, ?_⟩
      · exact Nat.lt_min.2 ⟨Nat.succ_pos n, pos⟩
      · exact fun reliable mem => reliable (List.mem_cons_of_mem _ mem)

end OutputStream
end TimeCapsule.Foundation
