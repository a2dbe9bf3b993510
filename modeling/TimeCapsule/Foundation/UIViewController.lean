import TimeCapsule.Lib.Regex

/-!
# Forms

What all forms of the app share (`UIViewController+Extension.swift`): the two format checks, error
labels, and the comparison of texts. A text here is the sequence of its scalars, since the format
checks read scalars; `==` on two texts compares their canonical normal forms, which a `canonical`
function stands for.
-/

namespace TimeCapsule.Foundation

/-- `==` on strings. -/
def equal (canonical : String → String) (a b : String) : Bool := canonical a == canonical b

/-- An error label, as `createErrorLabel` makes it. -/
structure UILabel where
  text : String := ""
  isHidden : Bool := false
deriving DecidableEq, Repr

/-- What `errorUpdateUI` does to the label; the border and the shaking of the field show the
same. -/
def errorUpdateUI (errorLabel : UILabel) (message : String) (isValid : Bool) : UILabel :=
  if isValid then { errorLabel with isHidden := true }
  else { text := message, isHidden := false }

/-- The label is hidden just when the field is valid. -/
@[simp]
lemma errorUpdateUI_isHidden (errorLabel : UILabel) (message : String) (isValid : Bool) :
    (errorUpdateUI errorLabel message isValid).isHidden = isValid := by
  cases isValid with
  | false => rfl
  | true => rfl

/-- `[A-Z0-9a-z._%+-]+@[A-Za-z0-9.-]+\.com` -/
def emailRegEx : Regex :=
  .seq (.atLeast 1 (.oneOf [.range 'A' 'Z', .range '0' '9', .range 'a' 'z', .char '.', .char '_',
    .char '%', .char '+', .char '-']))
  (.seq (.oneOf [.char '@'])
  (.seq (.atLeast 1 (.oneOf [.range 'A' 'Z', .range 'a' 'z', .range '0' '9', .char '.', .char '-']))
  (.seq (.oneOf [.char '.']) (.seq (.oneOf [.char 'c']) (.seq (.oneOf [.char 'o'])
    (.oneOf [.char 'm']))))))

def isValidEmailFormat (email : String) : Bool := emailRegEx.matchesWhole email

/-- The empty text is no address. -/
lemma isValidEmailFormat_of_isEmpty {email : String} (empty : email.isEmpty = true) :
    isValidEmailFormat email = false := by
  rw [String.isEmpty_iff.1 empty]
  decide

/-- `^(?=.*[A-Za-z])(?=.*\d)[A-Za-z\d$@$!%*?&]{8,}$` -/
def passwordRegEx : Regex :=
  .seq .start
  (.seq (.ahead (.seq (.star .dot) (.oneOf [.range 'A' 'Z', .range 'a' 'z'])))
  (.seq (.ahead (.seq (.star .dot) (.oneOf [.decimal])))
  (.seq (.atLeast 8 (.oneOf [.range 'A' 'Z', .range 'a' 'z', .decimal, .char '$', .char '@',
    .char '$', .char '!', .char '%', .char '*', .char '?', .char '&']))
  .finish)))

def isValidPasswordFormat (password : String) : Bool := passwordRegEx.matchesWhole password

example : isValidPasswordFormat "abcd1234" = true := by decide
example : isValidPasswordFormat "abcdefgh" = false := by decide
example : isValidEmailFormat "a@b.com" = true := by decide

end TimeCapsule.Foundation
