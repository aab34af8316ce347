import SelfCheck.Proofs.Gateway.Course
import SelfCheck.Proofs.Session.Tokens

/-! Whose tokens are used for whom.

All sessions share one store of tokens. A token gets there by a login that one of them has begun and
the platform has accepted, and it is kept for the account of that login; so whoever finds a token
there acts for an account that has been accepted.
-/

set_option autoImplicit false

namespace SelfCheck

namespace Gateway

/-- A session waits for the answer to a login: its latest move that was not quiet began it. -/
def Calling (past : List Occurrence) (number : Nat) (account : Account) (password : String) :
    Prop :=
  ∃ middle call before, past = middle ++ .move number call :: before ∧
    .login account password ∈ call.after.effects ∧
    ∀ other, .move number other ∈ middle → other.deed = .quiet

/-- The platform has accepted a user and a password, and answered with a token. -/
def Accepted (past : List Occurrence) (account : Account) (password : String) (token : Token) :
    Prop :=
  ∃ later number answer before message stretch, past = later ++ .move number answer :: before ∧
    answer.deed = .resumed message (.login (.ok token)) stretch ∧
    Calling before number account password

variable {past : List Occurrence} {account : Account} {password : String} {token : Token}
  {number : Nat}

theorem Accepted.later (accepted : Accepted past account password token)
    (occurrence : Occurrence) : Accepted (occurrence :: past) account password token := by
  obtain ⟨later, number, answer, before, message, stretch, rfl, answered, calling⟩ := accepted
  exact ⟨occurrence :: later, number, answer, before, message, stretch, rfl, answered, calling⟩

/-- What others do, and quiet moves, leave a call open. -/
theorem Calling.later (calling : Calling past number account password) {occurrence : Occurrence}
    (apart : ∀ episode, occurrence = .move number episode → episode.deed = .quiet) :
    Calling (occurrence :: past) number account password := by
  obtain ⟨middle, call, before, rfl, called, quiet⟩ := calling
  refine ⟨occurrence :: middle, call, before, rfl, called, ?_⟩
  intro other member
  rcases List.mem_cons.mp member with same | member
  · exact apart other same.symm
  · exact quiet other member

/-- Whoever is logged in is so as an account that the platform has accepted. -/
def LoggedIn (past : List Occurrence) (context : Context) : Prop :=
  ∃ tenant user own password token, context.tenant = some tenant ∧
    context.credentials = some ⟨user, own⟩ ∧ Accepted past ⟨tenant, user⟩ password token

theorem LoggedIn.later {context : Context} (loggedIn : LoggedIn past context)
    (occurrence : Occurrence) : LoggedIn (occurrence :: past) context := by
  obtain ⟨tenant, user, own, password, token, bound, named, accepted⟩ := loggedIn
  exact ⟨tenant, user, own, password, token, bound, named, accepted.later occurrence⟩

/-- What a share rests on: its caller waits for a token of its account, and calls the platform if
its login has begun. -/
def Backed (past : List Occurrence) (gateway : Gateway) (share : Logins.Share) : Prop :=
  ∃ session message wish deadline, gateway.sessions.lookup share.caller = some session ∧
    session.activity = .handling message (.token wish) deadline ∧
    share.account = wish.account ∧
    (share.deadline.isSome = true → Calling past share.caller wish.account wish.password)

/-- What holds of a gateway with its own handlers at any moment. -/
structure Sound (past : List Occurrence) (gateway : Gateway) : Prop where
  numbered : gateway.Numbered
  sessions : ∀ number session, gateway.sessions.lookup number = some session → session.Sound
  shares : ∀ share ∈ gateway.shared.logins.shares, Backed past gateway share
  cached : ∀ account token, gateway.shared.logins.cache.token? account = some token →
    ∃ password, Accepted past account password token
  loggedIn : ∀ number session, gateway.sessions.lookup number = some session →
    session.context.isAuthenticated = true → LoggedIn past session.context

variable {gateway : Gateway} {session : Session} {deed : Deed} {turn : Turn}

theorem Sound.sharesOf (sound : Sound past gateway)
    (known : gateway.sessions.lookup number = some session) :
    session.Shares gateway.shared.logins number := by
  intro share member mine
  obtain ⟨other, message, wish, deadline, found, busy, account, -⟩ := sound.shares share member
  rw [mine, known] at found
  cases found
  exact ⟨message, wish, deadline, busy, account⟩

/-- A token that a session is given has been accepted for its account and password. -/
theorem Sound.given (sound : Sound past gateway)
    (known : gateway.sessions.lookup number = some session)
    (move : Turn.Move gateway.setup number (session.turn gateway.shared) deed turn)
    (gives : deed.given? session.activity = some (account, token)) :
    ∃ message wish deadline stretch, deed = .resumed message (.login (.ok token)) stretch ∧
      session.activity = .handling message (.token wish) deadline ∧ account = wish.account ∧
      Calling past number account wish.password := by
  obtain ⟨message, wish, deadline, stretch, share, answered, busy, rfl, member, mine, begun⟩ :=
    move.given gives
  obtain ⟨other, message', wish', deadline', found, busy', -, calling⟩ := sound.shares share member
  rw [mine, known] at found
  cases found
  have same := busy.symm.trans busy'
  cases same
  rw [mine] at calling
  exact ⟨message, wish, deadline, stretch, answered, busy, rfl, calling begun⟩

theorem Sound.given_accepted (sound : Sound past gateway)
    (known : gateway.sessions.lookup number = some session)
    (move : Turn.Move gateway.setup number (session.turn gateway.shared) deed turn)
    (gives : deed.given? session.activity = some (account, token)) :
    ∃ password, Accepted (.move number ⟨session.turn gateway.shared, deed, turn⟩ :: past) account
      password token := by
  obtain ⟨message, wish, deadline, stretch, answered, -, -, calling⟩ :=
    sound.given known move gives
  exact ⟨wish.password, [], number, _, past, message, stretch, rfl, answered, calling⟩

/-- Whatever token can be had for an account has been accepted for it. -/
theorem Sound.grants_accepted (sound : Sound past gateway)
    (known : gateway.sessions.lookup number = some session)
    (move : Turn.Move gateway.setup number (session.turn gateway.shared) deed turn)
    (grants : gateway.shared.Grants (deed.given? session.activity) account token) :
    ∃ password, Accepted (.move number ⟨session.turn gateway.shared, deed, turn⟩ :: past) account
      password token := by
  rcases grants with ⟨held, -⟩ | gives
  · obtain ⟨password, accepted⟩ := sound.cached account token held
    exact ⟨password, accepted.later _⟩
  · exact sound.given_accepted known move gives

/-- Whoever logs in in a move has an account that has been accepted. -/
theorem Sound.enters (sound : Sound past gateway)
    (known : gateway.sessions.lookup number = some session)
    (move : Turn.Move gateway.setup number (session.turn gateway.shared) deed turn)
    {stretch : Stretch} {message : Message}
    (enters : stretch.Enters gateway.shared (deed.given? session.activity) message) :
    LoggedIn (.move number ⟨session.turn gateway.shared, deed, turn⟩ :: past)
      stretch.context := by
  obtain ⟨tenant, user, token, -, bound, named, grants⟩ := enters
  obtain ⟨password, accepted⟩ := sound.grants_accepted known move grants
  exact ⟨tenant, user, _, password, token, bound, named, accepted⟩

theorem Sound.loggedIn_after (stock : gateway.setup.handlers = Handler.stock)
    (sound : Sound past gateway) (known : gateway.sessions.lookup number = some session)
    (move : Turn.Move gateway.setup number (session.turn gateway.shared) deed turn)
    (authenticated : turn.session.context.isAuthenticated = true) :
    LoggedIn (.move number ⟨session.turn gateway.shared, deed, turn⟩ :: past)
      turn.session.context := by
  have same := move.keeps.eq_of_authenticated authenticated
  rw [same] at authenticated ⊢
  cases done : deed.stretch? with
  | none =>
    simp only [Deed.contextFrom, done, Option.map_none, Option.getD_none] at authenticated ⊢
    exact (sound.loggedIn number session known authenticated).later _
  | some stretch =>
    simp only [Deed.contextFrom, done, Option.map_some, Option.getD_some] at authenticated ⊢
    obtain ⟨message, asked⟩ := move.request_of_stretch done
    have traced :=
      move.traced stock (sound.sessions number session known) (sound.sharesOf known) done asked
    rcases traced.enters authenticated with ⟨before, bound, named⟩ | enters
    · obtain ⟨tenant, user, own, password, token, bound', named', accepted⟩ :=
        sound.loggedIn number session known before
      exact ⟨tenant, user, own, password, token, bound.trans bound', named.trans named',
        accepted.later _⟩
    · exact sound.enters known move enters

/-- The share of the session that moves is backed by its move. -/
theorem Sound.own_backed (stock : gateway.setup.handlers = Handler.stock)
    (sound : Sound past gateway) (known : gateway.sessions.lookup number = some session)
    (move : Turn.Move gateway.setup number (session.turn gateway.shared) deed turn)
    {share : Logins.Share} (member : share ∈ turn.shared.logins.shares)
    (mine : share.caller = number) :
    Backed (.move number ⟨session.turn gateway.shared, deed, turn⟩ :: past)
      (gateway.accept number turn).1 share := by
  obtain ⟨message, wish, deadline, busy, account, begun⟩ :=
    move.shares stock (sound.sessions number session known) (sound.sharesOf known) member mine
  refine ⟨turn.session, message, wish, deadline, ?_, busy, account, ?_⟩
  · rw [mine]
    exact lookup_accept_self _ _ _
  · intro started
    rw [mine]
    rcases begun started with called | ⟨quiet, old, still⟩
    -- The login was begun in this very move.
    · exact ⟨[], _, past, rfl, called, by simp⟩
    -- It was begun before, and the session still waits for the same token.
    · obtain ⟨before, message', wish', deadline', found, busy', -, calling⟩ :=
        sound.shares share old
      rw [mine, known] at found
      cases found
      have same := (busy.symm.trans still).trans busy'
      cases same
      rw [mine] at calling
      apply (calling started).later
      intro episode same
      cases same
      exact quiet

/-- The shares of the others are backed as before. -/
theorem Sound.other_backed (sound : Sound past gateway) {share : Logins.Share}
    (member : share ∈ gateway.shared.logins.shares) (other : share.caller ≠ number)
    (episode : Episode) :
    Backed (.move number episode :: past) (gateway.accept number turn).1 share := by
  obtain ⟨before, message, wish, deadline, found, busy, account, calling⟩ :=
    sound.shares share member
  refine ⟨before, message, wish, deadline, ?_, busy, account, ?_⟩
  · rw [lookup_accept_of_ne other]
    exact found
  · intro started
    apply (calling started).later
    intro episode' same
    cases same
    exact (other rfl).elim

theorem Sound.move (stock : gateway.setup.handlers = Handler.stock) (sound : Sound past gateway)
    (known : gateway.sessions.lookup number = some session)
    (move : Turn.Move gateway.setup number (session.turn gateway.shared) deed turn) :
    Sound (.move number ⟨session.turn gateway.shared, deed, turn⟩ :: past)
      (gateway.accept number turn).1 := by
  have fair := sound.sessions number session known
  have follows := move.follows stock fair (sound.sharesOf known)
  have place := Nat.le_of_lt (sound.numbered.lt_of_lookup known)
  refine ⟨sound.numbered.accept place turn, ?_, ?_, ?_, ?_⟩
  · intro other session' found
    by_cases same : other = number
    · subst same
      rw [lookup_accept_self] at found
      cases found
      exact move.sound stock fair
    · rw [lookup_accept_of_ne same] at found
      exact sound.sessions other session' found
  · intro share member
    by_cases mine : share.caller = number
    · exact sound.own_backed stock known move member mine
    · exact sound.other_backed (follows.others share member mine) mine _
  · intro account token held
    rcases follows.tokens account token held with old | new
    · obtain ⟨password, accepted⟩ := sound.cached account token old
      exact ⟨password, accepted.later _⟩
    · exact sound.given_accepted known move new
  · intro other session' found authenticated
    by_cases same : other = number
    · subst same
      rw [lookup_accept_self] at found
      cases found
      exact sound.loggedIn_after stock known move authenticated
    · rw [lookup_accept_of_ne same] at found
      exact (sound.loggedIn other session' found authenticated).later _

/-- An event that happens to no session of the gateway: shares are as before, no token is new, and
whoever connects has a number of its own and is not logged in. -/
theorem Sound.outside (sound : Sound past gateway) {event : Event} {effects : List (Nat × Effect)}
    {after : Gateway} (numbered : after.Numbered)
    (kept : ∀ number session, gateway.sessions.lookup number = some session →
      after.sessions.lookup number = some session)
    (found : ∀ number session, after.sessions.lookup number = some session →
      gateway.sessions.lookup number = some session ∨
        session.Sound ∧ session.context.isAuthenticated = false)
    (shares : after.shared.logins.shares = gateway.shared.logins.shares)
    (cached : ∀ account token, after.shared.logins.cache.token? account = some token →
      gateway.shared.logins.cache.token? account = some token) :
    Sound (.event event effects :: past) after := by
  refine ⟨numbered, ?_, ?_, ?_, ?_⟩
  · intro number session known
    rcases found number session known with old | ⟨new, -⟩
    · exact sound.sessions number session old
    · exact new
  · intro share member
    rw [shares] at member
    obtain ⟨session, message, wish, deadline, known, busy, account, calling⟩ :=
      sound.shares share member
    refine ⟨session, message, wish, deadline, kept _ _ known, busy, account, ?_⟩
    intro begun
    apply (calling begun).later
    intro episode same
    cases same
  · intro account token held
    obtain ⟨password, accepted⟩ := sound.cached account token (cached account token held)
    exact ⟨password, accepted.later _⟩
  · intro number session known authenticated
    rcases found number session known with old | ⟨-, outside⟩
    · exact (sound.loggedIn number session old authenticated).later _
    · rw [outside] at authenticated
      cases authenticated

/-- An event that leaves the sessions alone. -/
theorem Sound.event (sound : Sound past gateway) {event : Event} {effects : List (Nat × Effect)}
    {after : Gateway} (sessions : after.sessions = gateway.sessions)
    (shares : after.shared.logins.shares = gateway.shared.logins.shares)
    (cached : ∀ account token, after.shared.logins.cache.token? account = some token →
      gateway.shared.logins.cache.token? account = some token) :
    Sound (.event event effects :: past) after := by
  have numbered := sound.numbered
  unfold Numbered at numbered
  rw [← sessions] at numbered
  refine sound.outside numbered ?_ ?_ shares cached
  · intro number session known
    rw [sessions]
    exact known
  · intro number session known
    rw [sessions] at known
    exact .inl known

theorem start_shared (setup : Setup) (shared : Shared) (name : String) (peer : Net.SocketAddress)
    (port : Nat) : (Session.start setup shared name peer port).shared = shared := by
  unfold Session.start
  dsimp only
  split
  · split <;> rfl
  · split <;> rfl

/-- A new session gets a number of its own, and begins with nobody logged in. -/
theorem Sound.connected (sound : Sound past gateway) {event : Event}
    {effects : List (Nat × Effect)} (name : String) (peer : Net.SocketAddress) (port : Nat) :
    Sound (.event event effects :: past) (gateway.accept gateway.sessions.length
      (Session.start gateway.setup gateway.shared name peer port)).1 := by
  have shared : (gateway.accept gateway.sessions.length
      (Session.start gateway.setup gateway.shared name peer port)).1.shared = gateway.shared :=
    start_shared ..
  refine sound.outside (sound.numbered.accept (Nat.le_refl _) _) ?_ ?_ (by rw [shared])
    (by rw [shared]; exact fun _ _ held => held)
  · intro number session known
    have differs : number ≠ gateway.sessions.length := by
      rintro rfl
      rw [sound.numbered.lookup_length] at known
      cases known
    rw [lookup_accept_of_ne differs]
    exact known
  · intro number session known
    by_cases new : number = gateway.sessions.length
    · subst new
      rw [lookup_accept_self] at known
      cases known
      exact .inr ⟨Session.start_sound .., (Session.start_session ..).1⟩
    · rw [lookup_accept_of_ne new] at known
      exact .inl known

theorem Sound.initial (setup : Setup) (policy : Policy) (capacity : Nat) (now : Time.Moment) :
    Sound [] (.initial setup policy capacity now) := by
  refine ⟨rfl, ?_, ?_, ?_, ?_⟩
  · intro number session found
    cases found
  · intro share member
    cases member
  · intro account token held
    cases held
  · intro number session found
    cases found

theorem Course.sound {origin : Gateway} (stock : origin.setup.handlers = Handler.stock)
    (sound : Sound [] origin) (course : Course origin past gateway) : Sound past gateway := by
  -- Time, policy and connections are not the business of tokens; only a move can bring one in.
  induction course with
  | nil => exact sound
  | @event past before after event effects course kind steps ih =>
    cases event with
    | signal number signal => cases kind
    | connected name peer port =>
      cases steps
      exact ih.connected name peer port
    | policyReplaced policy =>
      cases steps
      exact ih.event rfl rfl fun _ _ held => held
    | invalidated account =>
      cases steps
      exact ih.event rfl rfl fun _ _ held => TokenCache.token?_of_remove held
    | wallClockSet now =>
      cases steps
      exact ih.event rfl rfl fun _ _ held => held
    | elapsed milliseconds =>
      simp only [step, Option.ite_none_right_eq_some, Option.some.injEq] at steps
      obtain ⟨-, same⟩ := steps
      cases same
      exact ih.event rfl rfl fun _ _ held => held
  | move course known move ih =>
    refine ih.move ?_ known move
    rw [course.setup_eq]
    exact stock

/-! Requests to the platform. -/

/-- A token that a move of a session uses for an account: the platform has given it for this
account, and it was fresh in the store when the session looked, or a login of the same request has
just ended with it. -/
structure Uses (past : List Occurrence) (number : Nat) (episode : Episode) (account : Account)
    (token : Token) : Prop where
  accepted : ∃ password, Accepted (.move number episode :: past) account password token
  obtained :
    (episode.before.shared.logins.cache.token? account = some token ∧
      token.isStale episode.before.shared.now = false) ∨
    ∃ message stretch password, episode.deed = .resumed message (.login (.ok token)) stretch ∧
      Calling past number account password ∧
      Accepted (.move number episode :: past) account password token

theorem Sound.uses (sound : Sound past gateway)
    (known : gateway.sessions.lookup number = some session)
    (move : Turn.Move gateway.setup number (session.turn gateway.shared) deed turn)
    (grants : gateway.shared.Grants (deed.given? session.activity) account token) :
    Uses past number ⟨session.turn gateway.shared, deed, turn⟩ account token := by
  refine ⟨sound.grants_accepted known move grants, ?_⟩
  rcases grants with cached | gives
  · exact .inl cached
  · obtain ⟨message, wish, deadline, stretch, answered, -, rfl, calling⟩ :=
      sound.given known move gives
    refine .inr ⟨message, stretch, wish.password, answered, calling, ?_⟩
    exact ⟨[], number, _, past, message, stretch, rfl, answered, calling⟩

variable {setup : Setup} {policy : Policy} {capacity : Nat} {now : Time.Moment}

/-- A gateway at the moment of a move on its record. -/
theorem Course.moment (stock : setup.handlers = Handler.stock) {later earlier : List Occurrence}
    {episode : Episode} (course : Course (.initial setup policy capacity now)
      (later ++ .move number episode :: earlier) gateway) :
    ∃ before session, Sound earlier before ∧ before.setup.handlers = Handler.stock ∧
      before.sessions.lookup number = some session ∧
      episode.before = session.turn before.shared ∧
      Turn.Move before.setup number episode.before episode.deed episode.after := by
  obtain ⟨before, session, upTo, known, same, move⟩ := course.split
  refine ⟨before, session, upTo.sound stock (.initial setup policy capacity now), ?_, known, same,
    move⟩
  rw [upTo.setup_eq]
  exact stock

/-- Every request that a session sends to the platform goes to the library that the session is bound
to, with a token that the platform gave for this library and the user of the session. Whoever is
served from the store gets a token of its own account, and none that is stale. -/
theorem forwarded_with_own_token (stock : setup.handlers = Handler.stock)
    (course : Course (.initial setup policy capacity now) past gateway) :
    (∀ later number episode earlier request, past = later ++ .move number episode :: earlier →
      .execute request ∈ episode.after.effects →
      ∃ user own token, episode.before.session.context.tenant = some request.tenant ∧
        episode.before.session.context.credentials = some ⟨user, own⟩ ∧
        token.text = request.token ∧
        Uses earlier number episode ⟨request.tenant, user⟩ token) ∧
    (∀ number episode stretch, .move number episode ∈ past →
      episode.deed.stretch? = some stretch → .count .tokenHit ∈ stretch.effects →
      ∃ account token, stretch.ActsFor account ∧
        episode.before.shared.logins.cache.token? account = some token ∧
        token.isStale episode.before.shared.now = false) := by
  constructor
  · rintro later number ⟨start, deed, turn⟩ earlier request rfl sends
    obtain ⟨before, session, sound, stock, known, same, move⟩ := course.moment stock
    dsimp only at same move sends ⊢
    subst same
    have fair := sound.sessions number session known
    obtain ⟨stretch, done, sent⟩ := move.called rfl rfl sends
    obtain ⟨message, asked⟩ := move.request_of_stretch done
    have handled := move.stretch_sound stock fair done asked
    have traced := move.traced stock fair (sound.sharesOf known) done asked
    obtain ⟨user, token, waits, text, grants⟩ := traced.sends request sent
    -- Who waits for the platform is logged in at the library of the request, and has been before.
    obtain ⟨business, -, tenant, own, named⟩ := handled.waiting _ waits
    rw [handled.unchanged business] at tenant named
    exact ⟨user, own, token, tenant, named, text, sound.uses known move grants⟩
  · intro number ⟨start, deed, turn⟩ stretch member done hit
    obtain ⟨later, earlier, rfl⟩ := List.append_of_mem member
    obtain ⟨before, session, sound, stock, known, same, move⟩ := course.moment stock
    dsimp only at same move done ⊢
    subst same
    obtain ⟨message, asked⟩ := move.request_of_stretch done
    have traced := move.traced stock (sound.sessions number session known)
      (sound.sharesOf known) done asked
    exact traced.hits hit

/-- Somebody logs in at a desk and checks an item out. -/
def deskCheckout : List Event :=
  [.connected "s" Desk.terminal 6443,
    .signal 0 (.received (Desk.line "9300CNu|COp|")),
    .signal 0 (.reply (.login (.ok Desk.token))),
    .signal 0 (.received (Desk.line "11YN20240101    12000020240101    120000AAu|ABi|"))]

theorem forwarded_with_own_token_checkout :
    ∃ past gateway number episode request earlier user token,
      Course (.initial Desk.setup (Desk.policy false [.checkout]) 8 1000) past gateway ∧
        .execute request ∈ episode.after.effects ∧ request.command = .checkout ∧
        token.text = request.token ∧
        Uses earlier number episode ⟨request.tenant, user⟩ token := by
  have works : ((Gateway.initial Desk.setup (Desk.policy false [.checkout]) 8 1000).perform?
      deskCheckout).any (fun performed => performed.2.any fun effect =>
        effect.2.request?.any (·.command = .checkout)) = true := by decide +kernel
  obtain ⟨⟨gateway, effects⟩, performs, seen⟩ := (Option.any_eq_true _ _).mp works
  obtain ⟨⟨number, effect⟩, done, forwarded⟩ := List.any_eq_true.mp seen
  obtain ⟨request, named, checkout⟩ := (Option.any_eq_true _ _).mp forwarded
  obtain rfl : effect = .execute request := Effect.request?_eq_some.mp named
  obtain ⟨past, course, onRecord⟩ := course_of_perform? performs
  obtain ⟨occurrence, member, occurs⟩ := (onRecord _).mp done
  obtain ⟨episode, rfl, sends⟩ := course.called member occurs rfl
  obtain ⟨later, earlier, whole⟩ := List.append_of_mem member
  obtain ⟨all, -⟩ := forwarded_with_own_token rfl course
  obtain ⟨user, own, token, -, -, text, uses⟩ :=
    all later number episode earlier request whole sends
  exact ⟨past, gateway, number, episode, request, earlier, user, token, course, sends,
    by simpa using checkout, text, uses⟩

/-- The password that a login is answered with a token for is that of its request. -/
theorem Sound.given_own (sound : Sound past gateway)
    (known : gateway.sessions.lookup number = some session)
    (move : Turn.Move gateway.setup number (session.turn gateway.shared) deed turn)
    (gives : deed.given? session.activity = some (account, token)) {message : Message}
    (asked : deed.request? = some message) (login : message.command = some .login) :
    Accepted (.move number ⟨session.turn gateway.shared, deed, turn⟩ :: past) account
      ((message.field? "CO").getD "") token := by
  obtain ⟨request, wish, deadline, stretch, answered, busy, rfl, calling⟩ :=
    sound.given known move gives
  have same : request = message := by
    rw [answered] at asked
    exact Option.some.inj asked
  subst same
  obtain ⟨-, purpose⟩ := (sound.sessions number session known).waiting _ _ _ busy
  -- The wish of a login is made from the request itself.
  have password : wish.password = (request.field? "CO").getD "" := by
    cases aim : wish.purpose with
    | login =>
      simp only [aim] at purpose
      exact purpose.2
    | forward =>
      simp only [aim] at purpose
      exact (Message.not_business_of_login login purpose.1).elim
  rw [← password]
  exact ⟨[], number, _, past, request, stretch, rfl, answered, calling⟩

/-- A login that succeeds says so, and it is one that the platform has accepted for the user and the
library of the session: with the password of the request, or, where the store has a fresh token of
this account, with the one that the token was given for. Nobody is logged in but as an account that
the platform has accepted. -/
theorem logged_in_as_accepted (stock : setup.handlers = Handler.stock)
    (course : Course (.initial setup policy capacity now) past gateway) :
    (∀ later number episode earlier message model,
      past = later ++ .move number episode :: earlier →
      episode.deed.outcome? = some (message, .success .login model) →
      model = Answer.flag true ∧
      ∃ stretch tenant user token, episode.deed.stretch? = some stretch ∧
        stretch.context.tenant = some tenant ∧
        stretch.context.credentials = some ⟨user, (message.field? "CO").getD ""⟩ ∧
        ((episode.before.shared.logins.cache.token? ⟨tenant, user⟩ = some token ∧
            token.isStale episode.before.shared.now = false ∧
            ∃ password, Accepted earlier ⟨tenant, user⟩ password token) ∨
          Accepted (.move number episode :: earlier) ⟨tenant, user⟩
            ((message.field? "CO").getD "") token)) ∧
    (∀ number session, gateway.sessions.lookup number = some session →
      session.context.isAuthenticated = true → LoggedIn past session.context) := by
  constructor
  · rintro later number ⟨start, deed, turn⟩ earlier message model rfl succeeds
    obtain ⟨before, session, sound, stock, known, same, move⟩ := course.moment stock
    dsimp only at same move succeeds ⊢
    subst same
    obtain ⟨stretch, done, asked, login, finished⟩ := Deed.stretch_of_success succeeds
    have traced := move.traced stock (sound.sessions number session known)
      (sound.sharesOf known) done asked
    obtain ⟨positive, tenant, user, token, -, bound, named, grants⟩ :=
      traced.logsIn login model finished
    refine ⟨positive, stretch, tenant, user, token, done, bound, named, ?_⟩
    rcases grants with ⟨held, fresh⟩ | gives
    · exact .inl ⟨held, fresh, sound.cached _ _ held⟩
    · exact .inr (sound.given_own known move gives asked login)
  · exact (course.sound stock (.initial setup policy capacity now)).loggedIn

/-- Somebody logs in at a desk, and another terminal with the same name and another password. -/
def secondPassword : List Event :=
  [.connected "s" Desk.terminal 6443,
    .signal 0 (.received (Desk.line "9300CNu|COp|")),
    .signal 0 (.reply (.login (.ok Desk.token))),
    .connected "t" Desk.terminal 6443,
    .signal 1 (.received (Desk.line "9300CNu|COq|"))]

theorem logged_in_as_accepted_second :
    ∃ past gateway session,
      Course (.initial Desk.setup (Desk.policy false []) 8 1000) past gateway ∧
        gateway.sessions.lookup 1 = some session ∧ session.context.isAuthenticated = true ∧
        LoggedIn past session.context := by
  have works : ((Gateway.initial Desk.setup (Desk.policy false []) 8 1000).perform?
      secondPassword).any (fun performed =>
        (performed.1.sessions.lookup 1).any (·.context.isAuthenticated)) = true := by
    decide +kernel
  obtain ⟨⟨gateway, effects⟩, performs, seen⟩ := (Option.any_eq_true _ _).mp works
  obtain ⟨session, known, authenticated⟩ := (Option.any_eq_true _ _).mp seen
  obtain ⟨past, course, -⟩ := course_of_perform? performs
  obtain ⟨-, all⟩ := logged_in_as_accepted rfl course
  exact ⟨past, gateway, session, course, known, authenticated,
    all 1 session known authenticated⟩

theorem Accepted.called (accepted : Accepted past account password token) :
    ∃ occurrence ∈ past, ∃ number, (number, .login account password) ∈ occurrence.effects := by
  obtain ⟨later, number, answer, before, message, stretch, rfl, -, calling⟩ := accepted
  obtain ⟨middle, call, earlier, rfl, called, -⟩ := calling
  refine ⟨.move number call, by simp, number, ?_⟩
  exact List.mem_map.mpr ⟨_, called, rfl⟩

/-- The store does not ask for the password: a login with one that the platform was never asked
about succeeds while there is a fresh token of the same user. -/
theorem logged_in_with_second_password :
    ∃ past gateway session,
      Course (.initial Desk.setup (Desk.policy false []) 8 1000) past gateway ∧
        (∃ occurrence ∈ past, ∃ effect, (1, effect) ∈ occurrence.effects ∧
          effect.written? = some (Desk.line "941")) ∧
        gateway.sessions.lookup 1 = some session ∧
        session.context.isAuthenticated = true ∧
        session.context.tenant = some Desk.library ∧
        session.context.credentials = some ⟨"u", "q"⟩ ∧
        ∀ account token, ¬Accepted past account "q" token := by
  have works : ((Gateway.initial Desk.setup (Desk.policy false []) 8 1000).perform?
      secondPassword).any (fun performed =>
        (performed.1.sessions.lookup 1).any (fun session => session.context.isAuthenticated &&
          session.context.tenant = some Desk.library &&
          session.context.credentials = some ⟨"u", "q"⟩) &&
        performed.2.any (fun effect =>
          effect.1 = 1 && effect.2.written? = some (Desk.line "941")) &&
        performed.2.all fun effect => effect.2.password? ≠ some "q") = true := by decide +kernel
  obtain ⟨⟨gateway, effects⟩, performs, seen⟩ := (Option.any_eq_true _ _).mp works
  rw [Bool.and_eq_true, Bool.and_eq_true] at seen
  obtain ⟨⟨standing, answered⟩, asked⟩ := seen
  obtain ⟨session, known, standing⟩ := (Option.any_eq_true _ _).mp standing
  simp only [Bool.and_eq_true, decide_eq_true_eq] at standing
  obtain ⟨⟨authenticated, tenant⟩, credentials⟩ := standing
  obtain ⟨past, course, onRecord⟩ := course_of_perform? performs
  refine ⟨past, gateway, session, course, ?_, known, authenticated, tenant, credentials, ?_⟩
  · obtain ⟨⟨number, effect⟩, done, written⟩ := List.any_eq_true.mp answered
    simp only [Bool.and_eq_true, decide_eq_true_eq] at written
    obtain ⟨rfl, written⟩ := written
    obtain ⟨occurrence, member, occurs⟩ := (onRecord _).mp done
    exact ⟨occurrence, member, effect, occurs, written⟩
  · intro account token accepted
    obtain ⟨occurrence, member, number, called⟩ := accepted.called
    have other := List.all_eq_true.mp asked _ ((onRecord _).mpr ⟨occurrence, member, called⟩)
    simp [Effect.password?] at other

end Gateway

end SelfCheck
