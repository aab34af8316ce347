import SelfCheck.Platform.Http
import SelfCheck.Proofs.Text.Boundary

/-! The status of a response.

Every status has its own outcome, and every call comes back with one, but for a single kind of
response: one with an error status whose text has a character across the limit. It cannot be cut
there, and the call is given up without an outcome.
-/

set_option autoImplicit false

namespace SelfCheck.HttpPlatform

open Text (Straddled width bytesOf width_cons straddled_cons_of_le straddled_cons_of_lt)

/-! Cutting. -/

variable {limit : Nat} {chars : List Char}

/-- There is no cut across a character. -/
theorem cutAtByte?_eq_none : cutAtByte? limit chars = none ↔ Straddled limit chars := by
  fun_induction cutAtByte? limit chars with
  | case1 limit => simp [Text.not_straddled_nil]
  | case2 chars some => simp [Text.not_straddled_zero]
  | case3 limit c chars positive size fits ih =>
    rw [Option.map_eq_none_iff, ih, straddled_cons_of_le fits]
  | case4 limit c chars positive size wide =>
    have inside : limit < c.utf8Size := Nat.lt_of_not_le wide
    simpa [straddled_cons_of_lt inside] using Nat.pos_of_ne_zero positive

/-- A cut leaves as much of a text as fits, which is all of it or just as much as is allowed. -/
theorem of_cutAtByte?_eq_some (limit : Nat) (chars : List Char) :
    ∀ front, cutAtByte? limit chars = some front →
      ∃ back, chars = front ++ back ∧ width front ≤ limit ∧ (back = [] ∨ width front = limit) := by
  fun_induction cutAtByte? limit chars with
  | case1 limit =>
    rintro front ⟨⟩
    exact ⟨[], rfl, Nat.zero_le limit, .inl rfl⟩
  | case2 chars some =>
    rintro front ⟨⟩
    exact ⟨chars, rfl, Nat.le_refl 0, .inr rfl⟩
  | case3 limit c chars positive size fits ih =>
    intro front cut
    obtain ⟨others, inner, rfl⟩ := Option.map_eq_some_iff.mp cut
    obtain ⟨back, rfl, short, full⟩ := ih others inner
    refine ⟨back, rfl, ?_, full.imp_right fun filled => ?_⟩ <;> rw [width_cons] <;> omega
  | case4 limit c chars positive size wide =>
    intro front cut
    cases cut

variable {text detail : String}

theorem detail?_eq_none : detail? text = none ↔ Straddled maxDetail text.toList := by
  rw [detail?, Option.map_eq_none_iff, cutAtByte?_eq_none]

/-- What an error quotes is the beginning of the body's text. -/
theorem of_detail?_eq_some (cut : detail? text = some detail) :
    ∃ rest, text = detail ++ rest ∧ (bytesOf detail).length ≤ maxDetail ∧
      (rest = "" ∨ (bytesOf detail).length = maxDetail) := by
  obtain ⟨front, found, rfl⟩ := Option.map_eq_some_iff.mp cut
  obtain ⟨back, whole, short, full⟩ := of_cutAtByte?_eq_some _ _ front found
  rw [Text.length_bytesOf_eq_width, String.toList_ofList]
  refine ⟨String.ofList back, ?_, short, full.imp_left fun done => ?_⟩
  · rw [← String.ofList_append, ← whole, String.ofList_toList]
  · rw [done, String.ofList_nil]

/-! Checking. -/

/-- A response with an error status, and not one of those for missing rights. -/
structure Failed (response : HttpResponse) : Prop where
  unsuccessful : ¬(200 ≤ response.status ∧ response.status ≤ 299)
  authenticated : response.status ≠ 401
  permitted : response.status ≠ 403

variable {response : HttpResponse}

theorem checkStatus_of_success (success : 200 ≤ response.status ∧ response.status ≤ 299) :
    checkStatus response = some (.ok response) := by
  unfold checkStatus
  rw [if_pos (by simpa using success)]

theorem checkStatus_of_unauthorized (refused : response.status = 401 ∨ response.status = 403) :
    checkStatus response = some (.error .unauthorized) := by
  unfold checkStatus
  rw [if_neg (by simp; omega), if_pos (by simpa using refused)]

theorem checkStatus_of_failed (failed : Failed response) :
    checkStatus response = (detail? response.text).map fun detail =>
      .error (.status response.status detail) := by
  unfold checkStatus
  rw [if_neg (by simpa using failed.unsuccessful),
    if_neg (by simp [failed.authenticated, failed.permitted])]

/-- The only responses without an outcome. -/
theorem checkStatus_eq_none :
    checkStatus response = none ↔
      Failed response ∧ Straddled maxDetail response.text.toList := by
  by_cases success : 200 ≤ response.status ∧ response.status ≤ 299
  · rw [checkStatus_of_success success]
    exact ⟨nofun, fun ⟨failed, _⟩ => absurd success failed.unsuccessful⟩
  by_cases refused : response.status = 401 ∨ response.status = 403
  · rw [checkStatus_of_unauthorized refused]
    exact ⟨nofun, fun ⟨failed, _⟩ => absurd refused (by simp [failed.authenticated, failed.permitted])⟩
  have failed : Failed response :=
    ⟨success, fun same => refused (.inl same), fun same => refused (.inr same)⟩
  rw [checkStatus_of_failed failed, Option.map_eq_none_iff, detail?_eq_none]
  exact ⟨fun straddled => ⟨failed, straddled⟩, And.right⟩

/-- A call ends without an outcome just when its response is such a one. -/
theorem call_eq_none {α : Type} {carrier : Carrier} {request : Except PlatformError HttpRequest}
    {read : HttpResponse → Except PlatformError α} :
    call carrier request read = none ↔
      ∃ sent answer, request = .ok sent ∧ carrier sent = .ok answer ∧ checkStatus answer = none := by
  unfold call
  constructor
  · intro lost
    cases request with
    | error fault => cases lost
    | ok sent =>
      cases carried : carrier sent with
      | error fault =>
        rw [Except.bind, carried] at lost
        cases lost
      | ok answer =>
        rw [Except.bind, carried] at lost
        exact ⟨sent, answer, rfl, carried, Option.map_eq_none_iff.mp lost⟩
  · rintro ⟨sent, answer, rfl, carried, lost⟩
    rw [Except.bind, carried]
    exact Option.map_eq_none_iff.mpr lost

/-- A response is returned when its status is a success, and missing rights are told apart. Of any
other status the error quotes the body, as much of it as the limit allows, when no character lies
across the limit. When one does there is no outcome. That is the only way in which a login or a
command can come to none. -/
theorem response_checked (response : HttpResponse) :
    let text := response.text
    (200 ≤ response.status ∧ response.status ≤ 299 → checkStatus response = some (.ok response)) ∧
    (response.status = 401 ∨ response.status = 403 →
      checkStatus response = some (.error .unauthorized)) ∧
    (Failed response → ¬Straddled maxDetail text.toList →
      ∃ detail rest, checkStatus response = some (.error (.status response.status detail)) ∧
        text = detail ++ rest ∧ (bytesOf detail).length ≤ maxDetail ∧
        (rest = "" ∨ (bytesOf detail).length = maxDetail)) ∧
    (checkStatus response = none ↔ Failed response ∧ Straddled maxDetail text.toList) ∧
    ∀ (platform : HttpPlatform) (carrier : Carrier),
      (∀ now account password, platform.login carrier now account password = none ↔
        ∃ sent answer, platform.loginRequest account password = .ok sent ∧
          carrier sent = .ok answer ∧ checkStatus answer = none) ∧
      ∀ request, platform.execute carrier request = none ↔
        ∃ sent answer, platform.commandRequest request = .ok sent ∧
          carrier sent = .ok answer ∧ checkStatus answer = none := by
  intro text
  refine ⟨checkStatus_of_success, checkStatus_of_unauthorized, ?_, checkStatus_eq_none, ?_⟩
  · intro failed clear
    cases cut : detail? response.text with
    | none => exact absurd (detail?_eq_none.mp cut) clear
    | some detail =>
      obtain ⟨rest, whole, short, full⟩ := of_detail?_eq_some cut
      refine ⟨detail, rest, ?_, whole, short, full⟩
      rw [checkStatus_of_failed failed, cut]
      rfl
  · exact fun platform carrier =>
      ⟨fun now account password => call_eq_none, fun request => call_eq_none⟩

/-- Two characters of two bytes around the limit, one of which ends on it. -/
theorem response_checked_at_limit :
    let response : HttpResponse :=
      { status := 503, body := bytesOf (String.ofList (List.replicate 254 'a') ++ "éé") }
    let text := response.text
    Failed response ∧ ¬Straddled maxDetail text.toList ∧
      ∃ detail rest, checkStatus response = some (.error (.status 503 detail)) ∧
        text = detail ++ rest ∧ (bytesOf detail).length ≤ maxDetail ∧
        (rest = "" ∨ (bytesOf detail).length = maxDetail) := by
  intro response text
  have failed : Failed response := ⟨by decide, by decide, by decide⟩
  have chars : text.toList = List.replicate 254 'a' ++ ['é', 'é'] := by
    simp only [text, response, Text.decode_bytesOf, String.toList_append, String.toList_ofList]
    rfl
  have clear : ¬Straddled maxDetail text.toList := by
    rw [chars]
    decide +kernel
  obtain ⟨-, -, cut, -⟩ := response_checked response
  exact ⟨failed, clear, cut failed clear⟩

/-- A body of 255 bytes and a character of two: there is no error for it, and no outcome of the login
that it answers. -/
theorem error_text_not_cut :
    let response : HttpResponse :=
      { status := 500, body := bytesOf (String.ofList (List.replicate 255 'a') ++ "é") }
    let platform : HttpPlatform :=
      { folder := ⟨"http", some { host := "127.0.0.1" }, .segments [""], none, none⟩ }
    checkStatus response = none ∧
      platform.login (fun _ => .ok response) 0 ⟨⟨"diku", by decide⟩, "sc"⟩ "pw" = none := by
  intro response platform
  have chars : response.text.toList = List.replicate 255 'a' ++ ['é'] := by
    simp only [response, Text.decode_bytesOf, String.toList_append, String.toList_ofList]
    rfl
  have lost : checkStatus response = none :=
    checkStatus_eq_none.mpr ⟨⟨by decide, by decide, by decide⟩,
      _, 'é', [], chars, by decide +kernel, by decide +kernel⟩
  refine ⟨lost, call_eq_none.mpr ?_⟩
  cases sent : platform.loginRequest ⟨⟨"diku", by decide⟩, "sc"⟩ "pw" with
  | error fault =>
    have valid : (platform.loginRequest ⟨⟨"diku", by decide⟩, "sc"⟩ "pw").isOk = true := by
      decide +kernel
    rw [sent] at valid
    cases valid
  | ok request => exact ⟨request, response, rfl, rfl, lost⟩

end SelfCheck.HttpPlatform
