import SelfCheck.Message.Printer
import SelfCheck.Proofs.Session.Unexecuted

/-! What an answer repeats from its request.

A body is written with the standard field delimiter, and where a session has another one, this is
put in its place all over the body. So a value that holds the standard delimiter, as it may under
another one, is cut there.
-/

set_option autoImplicit false

namespace SelfCheck

open Text (bytesOf)

namespace Session

/-- The field delimiter of a session, as a character. -/
def fieldMark (settings : WireSettings) : Char := Char.ofNat (fieldDelimiter settings).toNat

theorem fieldDelimiter_lt (settings : WireSettings) : (fieldDelimiter settings).toNat < 128 := by
  unfold fieldDelimiter asciiOr
  split
  · next ascii => rwa [UInt8.toNat_ofNat', Nat.mod_eq_of_lt (by omega)]
  · decide

theorem fieldMark_ascii (settings : WireSettings) : (fieldMark settings).toNat < 128 := by
  rw [fieldMark, Text.toNat_charOfByte]
  exact fieldDelimiter_lt settings

theorem mark_fieldMark (settings : WireSettings) :
    Message.mark (fieldMark settings) = fieldDelimiter settings := by
  rw [Message.mark, fieldMark, Text.toNat_charOfByte, UInt8.ofNat_toNat]

end Session

namespace Message

/-- A value that is read does not hold the delimiter behind it. -/
theorem readTagged_free {mark : Char} (ascii : mark.toNat < 128) {bytes : List UInt8}
    {fields : List TaggedField} (reads : readTagged (UInt8.ofNat mark.toNat) bytes = .ok fields) :
    ∀ field ∈ fields, mark ∉ field.value.toList := by
  induction fields generalizing bytes with
  | nil => exact fun _ member => (List.not_mem_nil member).elim
  | cons field fields ih =>
    obtain ⟨-, none⟩ | ⟨a, b, value, more, others, -, absent, same, inner⟩ := readTagged_eq_ok reads
    · cases none
    · cases same
      exact List.forall_mem_cons.mpr ⟨Text.not_mem_decode_of_absent ascii absent, ih inner⟩

theorem field?_free {settings : WireSettings} {frame : List UInt8} {message : Message}
    (reads : read frame (Session.fieldDelimiter settings) = .ok message) {tag value : String}
    (found : message.field? tag = some value) : Session.fieldMark settings ∉ value.toList := by
  obtain ⟨unwrapped, rest, stages⟩ := exists_stages reads
  obtain ⟨field, stands, rfl⟩ := Option.map_eq_some_iff.mp found
  have tagged := stages.tagged
  rw [← Session.mark_fieldMark] at tagged
  exact readTagged_free (Session.fieldMark_ascii settings) tagged field
    (List.mem_of_find?_eq_some stands)

end Message

namespace Turn

open Message (taggedText readTagged readTagged_cons)

variable (settings : WireSettings)

theorem delimited_eq_self {s : String} (free : '|' ∉ s.toList) : delimited settings s = s := by
  have same : s.toList.map (fun c => if c = '|' then Session.fieldMark settings else c) =
      s.toList.map id := by
    apply List.map_congr_left
    intro c member
    rw [if_neg (by rintro rfl; exact free member), id]
  rw [List.map_id] at same
  exact (congrArg String.ofList same).trans String.ofList_toList

theorem bytesOf_delimited_bar :
    bytesOf (delimited settings "|") = [Session.fieldDelimiter settings] := by
  have single : delimited settings "|" = String.ofList [Session.fieldMark settings] := rfl
  rw [single, bytesOf, String.toList_ofList, List.flatMap_singleton,
    Text.utf8EncodeChar_ascii (Session.fieldMark_ascii settings), Session.fieldMark,
    Text.toNat_charOfByte, UInt8.ofNat_toNat]

/-- The fields of a body, with the session's delimiter in place. -/
def echoed (fields : List TaggedField) : List UInt8 :=
  bytesOf (delimited settings (String.join (fields.map (taggedText '|'))))

variable {settings} {field : TaggedField} {fields : List TaggedField}

/-- A field is read up to the first standard delimiter in its value or behind it. -/
theorem readTagged_echoed_cons (tag : (bytesOf field.tag).length = 2)
    (plain : '|' ∉ field.tag.toList) {front back : String}
    (cut : field.value ++ "|" = front ++ ("|" ++ back))
    (first : '|' ∉ front.toList) (free : Session.fieldMark settings ∉ front.toList) :
    readTagged (Session.fieldDelimiter settings) (echoed settings (field :: fields)) =
      (readTagged (Session.fieldDelimiter settings)
        (bytesOf (delimited settings back) ++ echoed settings fields)).map
          (⟨field.tag, front⟩ :: ·) := by
  obtain ⟨a, b, two⟩ := Message.exists_of_two tag
  have absent : Session.fieldDelimiter settings ∉ bytesOf front := by
    rw [← Session.mark_fieldMark]
    exact Message.mark_not_mem (Session.fieldMark_ascii settings) free
  have bytes : echoed settings (field :: fields) =
      a :: b :: (bytesOf front ++ Session.fieldDelimiter settings ::
        (bytesOf (delimited settings back) ++ echoed settings fields)) := by
    have written : taggedText '|' field = field.tag ++ (front ++ ("|" ++ back)) := by
      rw [← cut, ← String.append_assoc]
      rfl
    unfold echoed
    rw [List.map_cons, String.join_cons, written]
    simp only [delimited_append, delimited_eq_self settings plain, delimited_eq_self settings first,
      Text.bytesOf_append, bytesOf_delimited_bar, two, List.append_assoc, List.cons_append,
      List.nil_append]
  rw [bytes, readTagged_cons absent, ← two, Text.decode_bytesOf, Text.decode_bytesOf]

/-- Fields are read back just when no value holds the standard delimiter. -/
theorem readTagged_echoed
    (tags : ∀ field ∈ fields, (bytesOf field.tag).length = 2 ∧ '|' ∉ field.tag.toList)
    (values : ∀ field ∈ fields, Session.fieldMark settings ∉ field.value.toList) :
    readTagged (Session.fieldDelimiter settings) (echoed settings fields) = .ok fields ↔
      ∀ field ∈ fields, '|' ∉ field.value.toList := by
  induction fields with
  | nil =>
    have nothing : readTagged (Session.fieldDelimiter settings) (echoed settings []) = .ok [] := by
      rw [show echoed settings [] = [] from rfl, readTagged]
    exact iff_of_true nothing (by simp)
  | cons field fields ih =>
    obtain ⟨⟨tag, plain⟩, tags⟩ := List.forall_mem_cons.mp tags
    obtain ⟨free, values⟩ := List.forall_mem_cons.mp values
    rw [List.forall_mem_cons, ← ih tags values]
    by_cases bar : '|' ∈ field.value.toList
    · -- The value ends early for the reader, so it is not read back.
      obtain ⟨front, back, whole, first⟩ := List.eq_append_cons_of_mem bar
      have cut : field.value ++ "|" =
          String.ofList front ++ ("|" ++ String.ofList (back ++ ['|'])) := by
        apply String.toList_inj.mp
        simp [whole]
      have early : Session.fieldMark settings ∉ front :=
        fun member => free (by simp [whole, member])
      rw [← String.toList_ofList (l := front)] at first early
      rw [readTagged_echoed_cons tag plain cut first early]
      refine iff_of_false ?_ fun both => both.1 bar
      generalize readTagged _ _ = others
      cases others with
      | error fault =>
        intro same
        cases same
      | ok read =>
        intro same
        have value : String.ofList front = field.value :=
          congrArg TaggedField.value (List.cons.inj (Except.ok.inj same)).1
        exact first (value ▸ bar)
    · have whole : field.value ++ "|" = field.value ++ ("|" ++ "") := by rw [String.append_empty]
      rw [readTagged_echoed_cons tag plain whole bar free,
        show bytesOf (delimited settings "") = [] from rfl, List.nil_append]
      cases readTagged (Session.fieldDelimiter settings) (echoed settings fields) with
      | error fault => simp [Except.map]
      | ok read => simp [Except.map, bar]

end Turn

namespace Answer

variable {message : Message} {institution patron item : String}

/-- The answer to a loan that the platform says nothing about, in the order of its keys. -/
theorem complete_checkout (place : message.field? "AO" = some institution)
    (person : message.field? "AA" = some patron) (thing : message.field? "AB" = some item)
    (now : Time.Moment) :
    complete .checkout message now .null = .object [
      ("desensitize", .string "U"),
      ("due_date", .string ""),
      ("institution_id", .string institution),
      ("item_identifier", .string item),
      ("language", .string ((message.fixed? "language").getD "000")),
      ("magnetic_media", .string "U"),
      ("ok", .bool false),
      ("patron_identifier", .string patron),
      ("patron_status", .string (Text.padEnd 14 "")),
      ("permanent_location", .string ""),
      ("personal_name", .string ""),
      ("renewal_ok", .bool false),
      ("title_identifier", .string ""),
      ("transaction_date", .string (Time.stamp now))] := by
  unfold complete common subject
  rw [place, person, thing]
  rfl

/-- The fields of such an answer. -/
def loanFields (institution patron item : String) : List TaggedField :=
  [⟨"AO", institution⟩, ⟨"AA", patron⟩, ⟨"AB", item⟩, ⟨"AJ", ""⟩, ⟨"AH", ""⟩]

/-- The columns in front of the fields: nothing is lent, nor renewed, and nothing known about the
item. -/
def loanColumns (now : Time.Moment) : String := "120NUU" ++ Time.stamp now

theorem lookup_loan (place : message.field? "AO" = some institution)
    (person : message.field? "AA" = some patron) (thing : message.field? "AB" = some item)
    (now : Time.Moment) :
    let look := Template.lookup [complete .checkout message now .null]
    look "ok" = some (.bool false) ∧ look "renewal_ok" = some (.bool false) ∧
      look "magnetic_media" = some (.string "U") ∧ look "desensitize" = some (.string "U") ∧
      look "transaction_date" = some (.string (Time.stamp now)) ∧
      look "institution_id" = some (.string institution) ∧
      look "patron_identifier" = some (.string patron) ∧
      look "item_identifier" = some (.string item) ∧
      look "title_identifier" = some (.string "") ∧ look "due_date" = some (.string "") ∧
      ∀ path ∈ ["fee_type", "security_inhibit", "currency_type", "fee_amount", "media_type",
        "item_properties", "transaction_id", "screen_message", "print_line"], look path = none := by
  intro look
  unfold look
  rw [complete_checkout place person thing]
  refine ⟨rfl, rfl, rfl, rfl, rfl, rfl, rfl, rfl, rfl, rfl, ?_⟩
  simp only [List.forall_mem_cons]
  exact ⟨rfl, rfl, rfl, rfl, rfl, rfl, rfl, rfl, rfl, by simp⟩

theorem render_loan (place : message.field? "AO" = some institution)
    (person : message.field? "AA" = some patron) (thing : message.field? "AB" = some item)
    (now : Time.Moment) :
    Templates.bundled.render .checkout (complete .checkout message now .null) =
      .ok (loanColumns now ++
        String.join ((loanFields institution patron item).map (Message.taggedText '|'))) := by
  have template : Templates.bundled.template? .checkout = some (Templates.loan "12") := rfl
  obtain ⟨ok, renewal, media, desensitize, stamp, own, who, what, title, due, absent⟩ :=
    lookup_loan place person thing now
  simp only [List.forall_mem_cons] at absent
  rw [Templates.render, template]
  simp only [Template.render, Templates.loan, Templates.institution, Templates.patron,
    Templates.field, Templates.feeFields, Templates.closingFields, Templates.maybe, Templates.place,
    Templates.digit, Template.renderNodes, Template.renderNode, ok, renewal, media, desensitize,
    stamp, own, who, what, title, due, absent, Template.valueText, Template.fit, Template.truthText,
    Template.isTruthy, List.cons_append, List.nil_append, Bool.false_eq_true, if_false,
    String.append_empty]
  apply congrArg Except.ok
  have columns : "120NUU" = "12" ++ ("0" ++ ("N" ++ ("U" ++ "U"))) := rfl
  have bar : '|'.toString = "|" := rfl
  simp only [loanColumns, loanFields, Message.taggedText, columns, bar, String.append_assoc,
    List.map_cons, List.map_nil, String.join_cons, String.join_nil, String.append_empty,
    String.empty_append]

/-- The tags of a loan are letters, and what it adds to the request is empty. -/
theorem readTagged_loan {settings : WireSettings}
    (values : ∀ value ∈ [institution, patron, item], Session.fieldMark settings ∉ value.toList) :
    Message.readTagged (Session.fieldDelimiter settings)
        (Turn.echoed settings (loanFields institution patron item)) =
          .ok (loanFields institution patron item) ↔
      ∀ value ∈ [institution, patron, item], '|' ∉ value.toList := by
  have tags : ∀ field ∈ loanFields institution patron item,
      (bytesOf field.tag).length = 2 ∧ '|' ∉ field.tag.toList := by
    simp only [loanFields, List.forall_mem_cons]
    decide
  rw [Turn.readTagged_echoed tags (by simpa [loanFields] using values)]
  simp [loanFields]

end Answer

end SelfCheck
