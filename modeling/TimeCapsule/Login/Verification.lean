import TimeCapsule.Login.UserModel
import TimeCapsule.Lib.Wire

/-!
# Verified addresses

The requests to `/email/verify` of a screen, with the record of the addresses for which the server
has answered one with success.
-/

namespace TimeCapsule.Login
open Foundation

abbrev VerifyWire := Wire VertifyCodeRequest (AFResult VertifyCodeResponse)

abbrev VerifyTraffic := Traffic (AFResult VertifyCodeResponse)

/-- The address that the server verifies by answering. -/
def verifies (w : VerifyWire) (traffic : VerifyTraffic) : Option String := do
  let (r, result) ← w.answered traffic
  let _ ← result.accepted
  some r.email

/-- The request whose success is handled. -/
def handlesSuccess (w : VerifyWire) (traffic : VerifyTraffic) : Option VertifyCodeRequest := do
  let (r, result) ← (w.step traffic).2
  let _ ← result.accepted
  some r

/-- Every success on the wire is on record. -/
def Recorded (w : VerifyWire) (verified : List String) : Prop :=
  ∀ x ∈ w, ∀ result ∈ x.answer, result.accepted.isSome → x.request.email ∈ verified

variable {w : VerifyWire} {verified : List String}

/-- A new request has no answer yet. -/
lemma Recorded.send (recorded : Recorded w verified) (r : VertifyCodeRequest) :
    Recorded (w.send r) verified := by
  intro x hx
  rcases Wire.mem_send.1 hx with hx | rfl
  · exact recorded x hx
  · exact Wire.unanswered

/-- The record follows the answers. -/
lemma Recorded.step (recorded : Recorded w verified) (traffic : VerifyTraffic) :
    Recorded (w.step traffic).1 (verified ++ (verifies w traffic).toList) := by
  intro x hx result ha accepted
  rcases Wire.mem_step_answered hx ha with hx | answered
  · exact List.mem_append_left _ (recorded x hx result ha accepted)
  · obtain ⟨response, hr⟩ := Option.isSome_iff_exists.1 accepted
    exact List.mem_append_right _ (by simp [verifies, answered, hr])

/-- A success that is handled is on record. -/
lemma Recorded.handled (recorded : Recorded w verified) {traffic : VerifyTraffic}
    {r : VertifyCodeRequest} (h : handlesSuccess w traffic = some r) : r.email ∈ verified := by
  obtain ⟨⟨r', result⟩, hd, h⟩ := Option.bind_eq_some_iff.1 h
  obtain ⟨response, ha, h⟩ := Option.bind_eq_some_iff.1 h
  cases h
  exact recorded _ ((w.step_moves traffic).delivered hd) result rfl (by simp [ha])

/-- A step that picks an answer up gives none. -/
lemma verifies_of_handlesSuccess {traffic : VerifyTraffic} {r : VertifyCodeRequest}
    (h : handlesSuccess w traffic = some r) : verifies w traffic = none := by
  obtain ⟨d, hd, _⟩ := Option.bind_eq_some_iff.1 h
  simp [verifies, Wire.answered_of_delivered hd]

end TimeCapsule.Login
