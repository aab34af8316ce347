import SelfCheck.Config.Environment
import SelfCheck.Config.Reader
import SelfCheck.Proofs.Text.Blank
import SelfCheck.Proofs.Text.Numeral

/-! What holds of every configuration that is loaded.

The file and the environment are two stages with the same limits. They differ in one thing: a list
of places in the file that names none stands for the default place, and such a list in the
environment leaves nothing to listen at.
-/

set_option autoImplicit false

namespace SelfCheck

/-! What the environment can change. -/

inductive Setting where
  | listen
  | idleTimeout
  | requestTimeout
  | maxFrame
  | metricsBind
  | healthBind
  | baseUrl
  | capacity
  | policySource
  | refresh
  | errorDetection
  | closeOnEndSession

namespace Setting

/-- The variable that changes a setting. -/
def name : Setting → String
  | .listen => "SIP2_LISTEN"
  | .idleTimeout => "SIP2_IDLE_TIMEOUT_SECS"
  | .requestTimeout => "SIP2_UPSTREAM_TIMEOUT_SECS"
  | .maxFrame => "SIP2_MAX_FRAME_BYTES"
  | .metricsBind => "SIP2_METRICS_BIND"
  | .healthBind => "SIP2_HEALTH_BIND"
  | .baseUrl => "SIP2_PLATFORM_BASE_URL"
  | .capacity => "SIP2_TOKEN_CACHE_CAPACITY"
  | .policySource => "SIP2_TENANTS_SOURCE"
  | .refresh => "SIP2_TENANTS_REFRESH_SECS"
  | .errorDetection => "SIP2_ERROR_DETECTION"
  | .closeOnEndSession => "SIP2_CLOSE_ON_END_SESSION"

/-- The texts of the numbers that a word holds, from the least one that counts. -/
def IsNumber (least : Nat) (text : String) : Prop :=
  ∃ digits value, (text.toList = digits ∨ text.toList = '+' :: digits) ∧
    Text.Numeral digits value ∧ least ≤ value ∧ value ≤ Text.maxWord

/-- The texts that turn something on or off. -/
def IsSwitch (text : String) : Prop :=
  Text.lowerAscii text ∈ ["1", "true", "yes", "on", "0", "false", "no", "off"]

/-- The texts a setting can be read from. -/
def Reads (text : String) : Setting → Prop
  | .listen | .metricsBind | .healthBind | .baseUrl | .policySource => True
  | .idleTimeout | .requestTimeout | .refresh => IsNumber 0 text
  | .maxFrame | .capacity => IsNumber 1 text
  | .errorDetection | .closeOnEndSession => IsSwitch text

/-- The setting's variable is set, is not blank and can be read. -/
def Given (environment : Environment) (setting : Setting) : Prop :=
  ∃ text, environment.lookup setting.name = some text ∧
    (∃ c ∈ text.toList, Text.isBlank c = false) ∧ setting.Reads (Text.trim text)

/-- Two configurations agree on a setting. -/
def Same (before after : Config) : Setting → Prop
  | .listen => after.listen = before.listen
  | .idleTimeout => after.idleTimeout = before.idleTimeout
  | .requestTimeout => after.requestTimeout = before.requestTimeout
  | .maxFrame => after.maxFrame = before.maxFrame
  | .metricsBind => after.metricsBind = before.metricsBind
  | .healthBind => after.healthBind = before.healthBind
  | .baseUrl => after.baseUrl = before.baseUrl
  | .capacity => after.capacity = before.capacity
  | .policySource => after.policySource = before.policySource
  | .refresh => after.refresh = before.refresh
  | .errorDetection => after.session.errorDetection = before.session.errorDetection
  | .closeOnEndSession => after.session.closeOnEndSession = before.session.closeOnEndSession

end Setting

/-! Reading variables. -/

namespace Environment

variable {environment : Environment} {name word : String}

theorem text?_eq_some :
    environment.text? name = some word ↔
      ∃ text, environment.lookup name = some text ∧
        (∃ c ∈ text.toList, Text.isBlank c = false) ∧ Text.trim text = word := by
  have inked (text : String) :
      (∃ c ∈ text.toList, Text.isBlank c = false) ↔ Text.trim text ≠ "" := by
    rw [ne_eq, Text.trim_eq_empty]
    simp only [not_forall, Bool.not_eq_true, exists_prop]
  simp only [text?, Option.filter_eq_some_iff, Option.map_eq_some_iff, decide_eq_true_eq, inked]
  constructor
  · rintro ⟨⟨text, set, rfl⟩, named⟩
    exact ⟨text, set, named, rfl⟩
  · rintro ⟨text, set, named, rfl⟩
    exact ⟨⟨text, set, rfl⟩, named⟩

theorem exists_text?_of_number? {value : Nat} (found : environment.number? name = some value) :
    ∃ word, environment.text? name = some word ∧
      ∀ {least}, least ≤ value → Setting.IsNumber least word := by
  obtain ⟨word, set, read⟩ := Option.bind_eq_some_iff.mp found
  obtain ⟨digits, written, numeral, small⟩ := Text.readBounded?_eq_some.mp read
  exact ⟨word, set, fun counts => ⟨digits, value, written, numeral, counts, small⟩⟩

theorem exists_text?_of_size? {value : Nat} (found : environment.size? name = some value) :
    ∃ word, environment.text? name = some word ∧ Setting.IsNumber 1 word := by
  obtain ⟨number, counts⟩ := Option.filter_eq_some_iff.mp found
  obtain ⟨word, set, numbers⟩ := exists_text?_of_number? number
  exact ⟨word, set, numbers (of_decide_eq_true counts)⟩

theorem exists_text?_of_switch? {on : Bool} (found : environment.switch? name = some on) :
    ∃ word, environment.text? name = some word ∧ Setting.IsSwitch word := by
  obtain ⟨word, set, read⟩ := Option.bind_eq_some_iff.mp found
  refine ⟨word, set, ?_⟩
  simp only [readSwitch?] at read
  split at read
  · next yes =>
    exact List.mem_append_left ["0", "false", "no", "off"] (List.contains_iff_mem.mp yes)
  · split at read
    · next no =>
      exact List.mem_append_right ["1", "true", "yes", "on"] (List.contains_iff_mem.mp no)
    · cases read

/-- Nothing is read for a setting that is not given. -/
theorem eq_none_of_not_given {α : Type} {setting : Setting} {result : Option α}
    (absent : ¬ setting.Given environment)
    (read : ∀ {value}, result = some value →
      ∃ word, environment.text? setting.name = some word ∧ setting.Reads word) :
    result = none := by
  cases found : result with
  | none => rfl
  | some value =>
    obtain ⟨word, named, reads⟩ := read found
    obtain ⟨text, set, inked, rfl⟩ := text?_eq_some.mp named
    exact absurd ⟨text, set, inked, reads⟩ absent

/-- The variable for places to listen at has commas and blanks in it, and nothing else. -/
def NamesNoPlace (environment : Environment) : Prop :=
  ∃ text, environment.lookup Setting.listen.name = some text ∧ ',' ∈ text.toList ∧
    ∀ c ∈ text.toList, c = ',' ∨ Text.isBlank c = true

end Environment

namespace Config

/-- The limits of a configuration. -/
structure Within (config : Config) : Prop where
  places : ∀ place ∈ config.listen, place ≠ "" ∧ Text.trim place = place
  requestTimeout : 1 ≤ config.requestTimeout
  refresh : 1 ≤ config.refresh
  maxFrame : 1 ≤ config.maxFrame
  capacity : 1 ≤ config.capacity

/-! The file. -/

theorem listenPlaces_ne_nil (listen : List String) : listenPlaces listen ≠ [] := by
  unfold listenPlaces
  split
  · exact List.cons_ne_nil defaultListen []
  · next named => exact named

theorem mem_listenPlaces {listen : List String} {place : String}
    (member : place ∈ listenPlaces listen) : place ≠ "" ∧ Text.trim place = place := by
  unfold listenPlaces at member
  split at member
  · cases List.mem_singleton.mp member
    exact ⟨by decide, by rfl⟩
  · obtain ⟨found, named⟩ := List.mem_filter.mp member
    obtain ⟨text, -, rfl⟩ := List.mem_map.mp found
    exact ⟨of_decide_eq_true named, Text.trim_trim text⟩

theorem le_sizeOr {default : Nat} (positive : 1 ≤ default) (size : Option Nat) :
    1 ≤ sizeOr default size := by
  unfold sizeOr
  cases counted : size.filter (0 < ·) with
  | none => exact positive
  | some value => exact of_decide_eq_true (Option.filter_eq_some_iff.mp counted).2

theorem within_build (server : ServerSection) (baseUrl : Option String) (capacity : Option Nat)
    (source : Option String × Option Nat) (station : Station) (session : WireSettings)
    (resolvers : List ResolverSpec) :
    (build server baseUrl capacity source station session resolvers).Within where
  places _ := mem_listenPlaces
  requestTimeout := Nat.le_max_right ..
  refresh := Nat.le_max_right ..
  maxFrame := le_sizeOr (by decide) _
  capacity := le_sizeOr (by decide) _

/-- Every configuration of a file is built of the sections of one. -/
theorem exists_build_of_ofTree? {tree : Tree} {config : Config}
    (read : ofTree? tree = some config) :
    ∃ server baseUrl capacity source station session resolvers,
      config = build server baseUrl capacity source station session resolvers := by
  simp only [ofTree?, Option.bind_eq_bind, Option.bind_eq_some_iff, Option.pure_def,
    Option.some.injEq] at read
  obtain ⟨_, -, server, -, baseUrl, -, capacity, -, source, -, station, -, session, -, resolvers, -,
    rfl⟩ := read
  exact ⟨server, baseUrl, capacity, source, station, session, resolvers, rfl⟩

theorem exists_build {file : Option (List UInt8)} {config : Config}
    (read : ofFile? file = some config) :
    ∃ server baseUrl capacity source station session resolvers,
      config = build server baseUrl capacity source station session resolvers := by
  cases file with
  | none => exact ⟨_, _, _, _, _, _, _, (Option.some.inj read).symm⟩
  | some bytes =>
    obtain ⟨text, -, found⟩ := Option.bind_eq_some_iff.mp read
    obtain ⟨tree, -, found⟩ := Option.bind_eq_some_iff.mp found
    exact exists_build_of_ofTree? found

theorem within_of_ofFile? {file : Option (List UInt8)} {config : Config}
    (read : ofFile? file = some config) : config.Within := by
  obtain ⟨server, baseUrl, capacity, source, station, session, resolvers, rfl⟩ := exists_build read
  exact within_build ..

theorem listen_ne_nil_of_ofFile? {file : Option (List UInt8)} {config : Config}
    (read : ofFile? file = some config) : config.listen ≠ [] := by
  obtain ⟨server, baseUrl, capacity, source, station, session, resolvers, rfl⟩ := exists_build read
  exact listenPlaces_ne_nil _

/-! The environment. -/

theorem within_override {config : Config} (within : config.Within) (environment : Environment) :
    (config.override environment).Within where
  places := by
    intro place member
    change place ∈ ((environment.text? "SIP2_LISTEN").map Text.commaItems).getD config.listen
      at member
    cases set : environment.text? "SIP2_LISTEN" with
    | none => exact within.places place (by rwa [set] at member)
    | some text => exact Text.mem_commaItems (by rwa [set] at member)
  requestTimeout := seconds within.requestTimeout
  refresh := seconds within.refresh
  maxFrame := size within.maxFrame
  capacity := size within.capacity
where
  seconds {name : String} {old : Nat} (positive : 1 ≤ old) :
      1 ≤ (environment.seconds? name).getD old := by
    unfold Environment.seconds?
    cases environment.number? name with
    | none => exact positive
    | some value => exact Nat.le_max_right ..
  size {name : String} {old : Nat} (positive : 1 ≤ old) :
      1 ≤ (environment.size? name).getD old := by
    cases counted : environment.size? name with
    | none => exact positive
    | some value => exact of_decide_eq_true (Option.filter_eq_some_iff.mp counted).2

/-- The environment leaves nothing to listen at when its list names no place, and only then. -/
theorem listen_override_eq_nil {config : Config} (somewhere : config.listen ≠ [])
    (environment : Environment) :
    (config.override environment).listen = [] ↔ environment.NamesNoPlace := by
  change ((environment.text? Setting.listen.name).map Text.commaItems).getD config.listen = [] ↔ _
  constructor
  · intro nowhere
    cases found : environment.text? Setting.listen.name with
    | none =>
      rw [found] at nowhere
      exact absurd nowhere somewhere
    | some word =>
      obtain ⟨text, set, ⟨c, member, inked⟩, rfl⟩ := Environment.text?_eq_some.mp found
      rw [found, Option.map_some, Option.getD_some, Text.commaItems_trim_eq_nil] at nowhere
      -- The text is not blank, so a comma is in it.
      rcases nowhere c member with rfl | blank
      · exact ⟨text, set, member, nowhere⟩
      · rw [blank] at inked
        cases inked
  · rintro ⟨text, set, comma, separators⟩
    have found : environment.text? Setting.listen.name = some (Text.trim text) :=
      Environment.text?_eq_some.mpr ⟨text, set, ⟨',', comma, by decide⟩, rfl⟩
    rw [found, Option.map_some, Option.getD_some, Text.commaItems_trim_eq_nil]
    exact separators

/-- A setting that is not given stays as it is. -/
theorem same_of_not_given {config : Config} {environment : Environment} {setting : Setting}
    (absent : ¬ setting.Given environment) : setting.Same config (config.override environment) := by
  cases setting with
  | listen | metricsBind | healthBind | baseUrl | policySource =>
    have unread : environment.text? (Setting.name _) = none :=
      Environment.eq_none_of_not_given absent fun {word} named => ⟨word, named, trivial⟩
    simp only [Setting.name] at unread
    simp only [Setting.Same, override, unread, Option.map_none, Option.getD_none, Option.none_or]
  | idleTimeout | requestTimeout | refresh =>
    have unread : environment.number? (Setting.name _) = none :=
      Environment.eq_none_of_not_given absent fun found => by
        obtain ⟨word, named, numbers⟩ := Environment.exists_text?_of_number? found
        exact ⟨word, named, numbers (Nat.zero_le _)⟩
    simp only [Setting.name] at unread
    simp only [Setting.Same, override, Environment.seconds?, unread, Option.map_none,
      Option.getD_none]
  | maxFrame | capacity =>
    have unread : environment.size? (Setting.name _) = none :=
      Environment.eq_none_of_not_given absent Environment.exists_text?_of_size?
    simp only [Setting.name] at unread
    simp only [Setting.Same, override, unread, Option.getD_none]
  | errorDetection | closeOnEndSession =>
    have unread : environment.switch? (Setting.name _) = none :=
      Environment.eq_none_of_not_given absent Environment.exists_text?_of_switch?
    simp only [Setting.name] at unread
    simp only [Setting.Same, override, unread, Option.getD_none]

/-- Whatever the file and the environment say, the limits are kept, a setting that the environment
does not give is the file's, and there is a place to listen at unless the environment's list names
none. -/
theorem loaded_within_limits {file : Option (List UInt8)} {config : Config}
    (read : ofFile? file = some config) (environment : Environment) :
    (config.override environment).Within ∧
      ((config.override environment).listen = [] ↔ environment.NamesNoPlace) ∧
      ∀ setting : Setting, ¬ setting.Given environment →
        setting.Same config (config.override environment) :=
  ⟨within_override (within_of_ofFile? read) environment,
    listen_override_eq_nil (listen_ne_nil_of_ofFile? read) environment,
    fun _ => same_of_not_given⟩

def spareFile : List UInt8 :=
  Text.bytesOf "[server]\nlisten = [\" \"]\nupstream_timeout_secs = 0\n[token_cache]\ncapacity = 0"

/-- A file that says little and variables that say nothing: separators, a zero, a numeral with two
signs and a word that is no switch. -/
theorem loaded_within_limits_spare :
    ∃ config, ofFile? (some spareFile) = some config ∧
      let environment : Environment := [("SIP2_LISTEN", " ,, "), ("SIP2_MAX_FRAME_BYTES", "0"),
        ("SIP2_TOKEN_CACHE_CAPACITY", "+-1"), ("SIP2_ERROR_DETECTION", "maybe")]
      (config.override environment).Within ∧ (config.override environment).listen = [] ∧
        (config.override environment).maxFrame = config.maxFrame := by
  have accepted : (ofFile? (some spareFile)).isSome = true := by decide +kernel
  obtain ⟨config, read⟩ := Option.isSome_iff_exists.mp accepted
  refine ⟨config, read, ?_⟩
  intro environment
  obtain ⟨within, silent, same⟩ := loaded_within_limits read environment
  have nowhere : environment.NamesNoPlace :=
    ⟨" ,, ", rfl, by decide +kernel, by simp [Text.isBlank]⟩
  refine ⟨within, silent.mpr nowhere, same .maxFrame ?_⟩
  rintro ⟨text, set, -, digits, value, written, ⟨-, -, rfl⟩, counts, -⟩
  cases set
  have digit : (Text.trim "0").toList = ['0'] := by decide +kernel
  rw [digit] at written
  rcases written with rfl | signed
  · exact absurd counts (by decide)
  · cases signed

/-- A list of nothing but a comma gets past the default of the file. -/
theorem loaded_without_place :
    ¬ ∀ (file : Option (List UInt8)) (config : Config) (environment : Environment),
      ofFile? file = some config → (config.override environment).listen ≠ [] := by
  intro somewhere
  exact somewhere none standard [("SIP2_LISTEN", ",")] rfl rfl

end Config

end SelfCheck
