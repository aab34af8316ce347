import SelfCheck.Proofs.Answer.Status
import SelfCheck.Proofs.Dispatch.Recognition
import SelfCheck.Proofs.Session.Course
import SelfCheck.Proofs.Time.Stamp

/-! The columns of a status answer.

Everything in front of the first field of a status answer has a fixed place, which a terminal
counts on. The two numbers are filled up to three digits and never cut, so the places are right as
long as both settings have at most three digits, and wrong for every other station.
-/

set_option autoImplicit false

namespace SelfCheck

/-- A status answer, taken apart at its columns. -/
structure StatusLine where
  flags : String
  timeout : String
  retries : String
  stamp : String
  fields : String

namespace StatusLine

def text (line : StatusLine) : String :=
  "98" ++ line.flags ++ line.timeout ++ line.retries ++ line.stamp ++ "2.00" ++ line.fields

/-- Where the first field begins for a terminal that counts columns. -/
def firstField : Nat := 36

/-- A line whose first field stands where it should. -/
def InPlace (line : StatusLine) : Prop :=
  (line.text.toList.drop firstField).take 2 = ['A', 'O']

/-- What the line says of a library, of a station and of the time that a clock shows. -/
structure Tells (line : StatusLine) (tenant : TenantId) (station : Station)
    (now : Time.Moment) : Prop where
  flagCount : line.flags.length = 6
  flagLetters : ∀ c ∈ line.flags.toList, c = 'Y' ∨ c = 'N'
  timeout : Text.Column 3 station.timeoutPeriod.toNat line.timeout
  retries : Text.Column 3 station.retriesAllowed.toNat line.retries
  stamp : line.stamp = Time.stamp now
  stampLength : line.stamp.length = 18
  institution : ∃ others, line.fields = "AO" ++ tenant.text ++ "|" ++ others

variable {line : StatusLine} {tenant : TenantId} {station : Station} {now : Time.Moment}

/-- A number of sixteen bits has at most five digits. -/
theorem length_le_of_column {n : UInt16} {s : String} (column : Text.Column 3 n.toNat s) :
    s.length ≤ 5 := by
  refine (column.fits (by decide)).mpr (Nat.lt_trans n.toNat_lt ?_)
  decide

/-- Only behind all of the version the first field begins. -/
theorem field_behind_version {skipped : Nat} (others : List Char) (few : skipped ≤ 4) :
    (('2' :: '.' :: '0' :: '0' :: 'A' :: 'O' :: others).drop skipped).take 2 = ['A', 'O'] ↔
      skipped = 4 := by
  match skipped with
  | 0 | 1 | 2 | 3 | 4 => simp
  | _ + 5 => omega

/-- The first field is in its place when both numbers have three digits; otherwise the end of the
version stands there. -/
theorem Tells.inPlace_iff (tells : line.Tells tenant station now) :
    line.InPlace ↔ station.timeoutPeriod.toNat < 1000 ∧ station.retriesAllowed.toNat < 1000 := by
  obtain ⟨others, fields⟩ := tells.institution
  let head := ("98" ++ line.flags ++ line.timeout ++ line.retries ++ line.stamp).toList
  have text : line.text.toList =
      head ++ '2' :: '.' :: '0' :: '0' :: 'A' :: 'O' :: (tenant.text ++ "|" ++ others).toList := by
    simp [text, fields, head]
  have length : head.length = 26 + line.timeout.length + line.retries.length := by
    simp only [head, String.length_toList, String.length_append, tells.flagCount,
      tells.stampLength]
    have code : "98".length = 2 := rfl
    omega
  have timeout : 3 ≤ line.timeout.length ∧ line.timeout.length ≤ 5 :=
    ⟨tells.timeout.filled, length_le_of_column tells.timeout⟩
  have retries : 3 ≤ line.retries.length ∧ line.retries.length ≤ 5 :=
    ⟨tells.retries.filled, length_le_of_column tells.retries⟩
  have both : line.timeout.length + line.retries.length = 6 ↔
      station.timeoutPeriod.toNat < 1000 ∧ station.retriesAllowed.toNat < 1000 := by
    have timeoutFits : _ ↔ station.timeoutPeriod.toNat < 1000 := tells.timeout.length_eq_iff
    have retriesFits : _ ↔ station.retriesAllowed.toNat < 1000 := tells.retries.length_eq_iff
    rw [← timeoutFits, ← retriesFits]
    omega
  have past : head.drop 36 = [] := List.drop_eq_nil_of_le (by omega)
  rw [InPlace, text, firstField, List.drop_append, past, List.nil_append,
    field_behind_version _ (by omega), ← both]
  omega

end StatusLine

namespace Answer

variable (tenant : TenantId) (acs : AcsPolicy) (station : Station) (now : Time.Moment)

/-- The status answer of a library and a station, taken apart. -/
def statusLine : StatusLine :=
  let letter := Template.truthText false
  { flags := letter true ++ letter station.checkinOk ++ letter station.checkoutOk ++
      letter station.acsRenewalPolicy ++ letter acs.statusUpdateOk ++ letter acs.offlineOk
    timeout := Text.padStart 3 '0' (Json.Number.whole station.timeoutPeriod.toNat).text
    retries := Text.padStart 3 '0' (Json.Number.whole station.retriesAllowed.toNat).text
    stamp := Time.stamp now
    fields := "AO" ++ tenant.text ++ "|" ++ ("AM" ++ station.libraryName ++ "|" ++
      "BX" ++ acs.flags ++ "|" ++ "AN" ++ station.terminalLocation ++ "|") }

theorem statusLine_text :
    (statusLine tenant acs station now).text = statusText tenant acs station now := by
  unfold StatusLine.text statusLine statusText
  simp only [String.append_assoc]

theorem truthText_length (b : Bool) : (Template.truthText false b).length = 1 := by
  cases b <;> rfl

theorem truthText_letter {b : Bool} {c : Char} (member : c ∈ (Template.truthText false b).toList) :
    c = 'Y' ∨ c = 'N' := by
  cases b with
  | true => exact .inl (List.mem_singleton.mp member)
  | false => exact .inr (List.mem_singleton.mp member)

theorem statusLine_tells {now : Time.Moment} (year : (Time.today now).FourDigits) :
    (statusLine tenant acs station now).Tells tenant station now where
  flagCount := by
    simp only [statusLine, String.length_append, truthText_length]
  flagLetters := by
    intro c member
    simp only [statusLine, String.toList_append, List.mem_append] at member
    rcases member with ((((member | member) | member) | member) | member) | member <;>
      exact truthText_letter member
  timeout := Text.column_padStart (by decide) _
  retries := Text.column_padStart (by decide) _
  stamp := rfl
  stampLength := Time.stamp_length year
  institution := ⟨_, rfl⟩

end Answer

namespace Dispatch

/-- A status request is answered at once. With the bundled templates its answer has every column,
the two numbers with three digits or, if these are too few, with more; so its first field is in its
place exactly for a station whose settings have three digits. The stamp is that of the gateway's
zone. -/
theorem status_columns (setup : Setup) (stock : setup.handlers = Handler.stock)
    (bundled : setup.templates = Templates.bundled) (caller : Nat) (message : Message)
    (asks : message.command = some .scStatus) (shared : Shared) (context : Context)
    (tenant : TenantId) (bound : context.tenant = some tenant)
    (year : (Time.today (setup.localTime shared.now)).FourDigits) :
    ∃ model line,
      start setup caller message shared context = rest shared context (.ok model) ∧
      Turn.rendered setup.templates message (outcome message (.ok model)) =
        .ok (StatusLine.text line) ∧
      line.Tells tenant context.station (setup.localTime shared.now) ∧
      line.stamp = Time.stampIn (setup.zone shared.now) (Time.Moment.seconds shared.now) ∧
      (line.InPlace ↔ context.station.timeoutPeriod.toNat < 1000 ∧
        context.station.retriesAllowed.toNat < 1000) := by
  have tells := Answer.statusLine_tells tenant (shared.policy.profile tenant).acs context.station
    year
  refine ⟨_, _, start_status stock asks bound, ?_, tells, Time.stamp_east .., tells.inPlace_iff⟩
  rw [Answer.statusLine_text, bundled]
  simp only [outcome, asks, Turn.rendered]
  exact Answer.render_status ..

/-- A session at a library whose terminals may take their time. -/
def patient (tenths : UInt16) : Context :=
  { Context.start "s" Desk.terminal 6443 {} { timeoutPeriod := tenths } with
    tenant := some Desk.library }

def statusRequest : Message := ⟨"99", some .scStatus, [], [], none, none⟩

theorem status_columns_patient :
    let setup : Setup := { Desk.setup with zone := fun _ => 3600 }
    let shared := Desk.shared {} (.empty 8)
    let reads (context : Context) (line : StatusLine) := ∃ model,
      start setup 0 statusRequest shared context = rest shared context (.ok model) ∧
        Turn.rendered Templates.bundled statusRequest (outcome statusRequest (.ok model)) =
          .ok line.text
    (patient 999).tenant = some Desk.library ∧ (patient 1000).tenant = some Desk.library ∧
      (Time.today (setup.localTime shared.now)).FourDigits ∧
      (∃ line, reads (patient 999) line ∧ line.InPlace ∧
        line.stamp = "19700101    010000") ∧
      ∃ line, reads (patient 1000) line ∧ ¬line.InPlace := by
  intro setup shared reads
  have year : (Time.today (setup.localTime shared.now)).FourDigits := by decide
  obtain ⟨_, shorter, starts, text, -, stamped, place⟩ := status_columns setup rfl rfl 0
    statusRequest rfl shared (patient 999) Desk.library rfl year
  obtain ⟨_, longer, starts', text', -, -, place'⟩ := status_columns setup rfl rfl 0
    statusRequest rfl shared (patient 1000) Desk.library rfl year
  refine ⟨rfl, rfl, year, ⟨shorter, ⟨_, starts, text⟩, ?_, ?_⟩, longer, ⟨_, starts', text'⟩, ?_⟩
  · exact place.mpr (by decide)
  · exact stamped.trans (by decide +kernel)
  · exact fun inPlace => absurd (place'.mp inPlace).1 (by decide)

/-- A timeout of a hundred seconds needs four digits, and moves all that follows by one. -/
theorem status_out_of_place :
    let shared := Desk.shared {} (.empty 8)
    let context := patient 1000
    let body := "98YYYNNN100000319700101    0000002.00AOmain|AM|BXNNNNYYYNNNNNNNNN|AN|"
    (Time.today (Desk.setup.localTime shared.now)).FourDigits ∧
      (∃ model, start Desk.setup 0 statusRequest shared context =
          rest shared context (.ok model) ∧
        Turn.rendered Templates.bundled statusRequest (outcome statusRequest (.ok model)) =
          .ok body) ∧
      (body.toList.drop StatusLine.firstField).take 2 = ['0', 'A'] := by
  intro shared context body
  refine ⟨by decide, ⟨_, start_status rfl rfl rfl, ?_⟩, by decide⟩
  refine (Answer.render_status ..).trans (congrArg Except.ok ?_)
  decide +kernel

end Dispatch

end SelfCheck
