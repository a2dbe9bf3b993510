import TimeCapsule.Foundation.UIViewController

/-!
# The language of the password pattern

The two lookaheads begin where the bounded repetition does, and cannot see past a line terminator.
The repetition has no line terminator in its class, so they see the whole password: together the
three parts say what `isValidPasswordFormat_iff` says.
-/

namespace TimeCapsule.Foundation
open Regex

/-- The characters of a password. -/
def isPasswordCharacter (c : Char) : Bool :=
  c.isAlpha || isDecimalDigit c || ['$', '@', '!', '%', '*', '?', '&'].contains c

/-- The two ranges of letters are the ASCII letters. -/
lemma letters_contain (c : Char) :
    [ClassItem.range 'A' 'Z', .range 'a' 'z'].any (·.contains c) = c.isAlpha := by
  simp [ClassItem.contains, Char.isAlpha, Char.isUpper, Char.isLower, UInt32.le_iff_toNat_le]

/-- The class of the repetition, which lists one sign twice, is that of the password characters. -/
lemma passwordClass_contains (c : Char) :
    [ClassItem.range 'A' 'Z', .range 'a' 'z', .decimal, .char '$', .char '@', .char '$', .char '!',
      .char '%', .char '*', .char '?', .char '&'].any (·.contains c) = isPasswordCharacter c := by
  rw [isPasswordCharacter, ← letters_contain, Bool.eq_iff_iff]
  simp only [ClassItem.contains, List.any_cons, List.any_nil, Bool.or_false, List.contains_cons,
    List.contains_nil, Bool.or_eq_true, beq_iff_eq, eq_comm (b := c)]
  tauto

/-- No password character is a line terminator. -/
lemma isLineTerminator_of_isPasswordCharacter {c : Char} (h : isPasswordCharacter c = true) :
    isLineTerminator c = false := by
  have others : ∀ n ∈ [0x0A, 0x0B, 0x0C, 0x0D, 0x85, 0x2028, 0x2029],
      isPasswordCharacter (Char.ofNat n) = false := by decide
  apply decide_eq_false
  intro terminator
  have other := others c.toNat terminator
  rw [Char.ofNat_toNat, h] at other
  cases other

/-- Looking ahead for a character of a password finds one anywhere in it. -/
lemma lookahead_iff {s t : List Char} {r : Regex} {p : Char → Bool} (one : ReadsOne s r p)
    (password : ∀ c ∈ s, isPasswordCharacter c = true) :
    Matches s (.ahead (.seq (.star .dot) r)) s t ↔ t = s ∧ ∃ c ∈ s, p c = true := by
  rw [one.lookahead]
  apply and_congr_right
  rintro rfl
  constructor
  · rintro ⟨u, c, v, e, _, hc⟩
    exact ⟨c, e ▸ List.mem_append_right u (List.mem_cons_self ..), hc⟩
  · rintro ⟨c, mem, hc⟩
    obtain ⟨u, v, e⟩ := List.append_of_mem mem
    refine ⟨u, c, v, e, fun d hd => ?_, hc⟩
    exact isLineTerminator_of_isPasswordCharacter (password d (e ▸ List.mem_append_left _ hd))

/-- The pattern matches what the parts match: two lookaheads and a repetition up to the end. -/
lemma matches_passwordRegEx {s : List Char} : Matches s passwordRegEx s [] ↔
    8 ≤ s.length ∧ (∀ c ∈ s, isPasswordCharacter c = true) ∧ (∃ c ∈ s, c.isAlpha = true) ∧
      ∃ c ∈ s, isDecimalDigit c = true := by
  have letter : ReadsOne s (.oneOf [.range 'A' 'Z', .range 'a' 'z']) Char.isAlpha := by
    simpa only [letters_contain] using
      @readsOne_oneOf s [.range 'A' 'Z', .range 'a' 'z']
  have digit : ReadsOne s (.oneOf [.decimal]) isDecimalDigit := by
    simpa [ClassItem.contains] using @readsOne_oneOf s [.decimal]
  have character : ReadsOne s (.oneOf [.range 'A' 'Z', .range 'a' 'z', .decimal, .char '$',
      .char '@', .char '$', .char '!', .char '%', .char '*', .char '?', .char '&'])
      isPasswordCharacter := by
    simpa only [passwordClass_contains] using @readsOne_oneOf s [.range 'A' 'Z',
      .range 'a' 'z', .decimal, .char '$', .char '@', .char '$', .char '!', .char '%', .char '*',
      .char '?', .char '&']
  constructor
  · intro h
    obtain ⟨_, start, h⟩ := matches_seq_iff.1 h
    obtain ⟨_, letters, h⟩ := matches_seq_iff.1 h
    obtain ⟨_, digits, h⟩ := matches_seq_iff.1 h
    obtain ⟨_, repetition, finish⟩ := matches_seq_iff.1 h
    cases start
    cases finish
    obtain ⟨rfl, _⟩ := letter.lookahead.1 letters
    obtain ⟨rfl, _⟩ := digit.lookahead.1 digits
    obtain ⟨u, e, length, password⟩ := character.atLeast.1 repetition
    obtain rfl := e.trans (List.append_nil u)
    exact ⟨length, password, ((lookahead_iff letter password).1 letters).2,
      ((lookahead_iff digit password).1 digits).2⟩
  · rintro ⟨length, password, hasLetter, hasDigit⟩
    have repetition := character.atLeast.2 ⟨s, (List.append_nil s).symm, length, password⟩
    exact .seq (.start rfl) (.seq ((lookahead_iff letter password).2 ⟨rfl, hasLetter⟩)
      (.seq ((lookahead_iff digit password).2 ⟨rfl, hasDigit⟩)
        (.seq repetition (.finish (.inl rfl)))))

/-- A password is valid just when it has at least eight characters, all of them letters, digits or
one of the seven signs, and among them a letter and a digit. -/
theorem isValidPasswordFormat_iff (password : String) :
    isValidPasswordFormat password = true ↔ 8 ≤ password.length ∧
      (∀ c ∈ password.toList, c.isAlpha = true ∨ isDecimalDigit c = true ∨
        c ∈ ['$', '@', '!', '%', '*', '?', '&']) ∧
      (∃ c ∈ password.toList, c.isAlpha = true) ∧
      ∃ c ∈ password.toList, isDecimalDigit c = true := by
  rw [isValidPasswordFormat, matchesWhole_iff, matches_passwordRegEx, String.length_toList]
  simp only [isPasswordCharacter, Bool.or_eq_true, or_assoc, List.contains_iff_mem]

end TimeCapsule.Foundation
