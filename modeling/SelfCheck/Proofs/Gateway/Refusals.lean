import SelfCheck.Proofs.Dispatch.Requests
import SelfCheck.Proofs.Gateway.Deadlines

/-! Tokens that the platform refuses.

A session that is told that its token is refused drops whatever the store has for its account by
then. Between the request and the refusal other sessions may have logged in to the same account, so
this is the refused token or one that has come since; it is never the token of another account.
-/

set_option autoImplicit false

namespace SelfCheck

namespace Turn

variable {setup : Setup} {caller : Nat} {turn after : Turn} {deed : Deed}

theorem Move.stretch_asks (shares : turn.session.Shares turn.shared.logins caller)
    (move : Move setup caller turn deed after) {stretch : Stretch}
    (done : deed.stretch? = some stretch) : stretch.Asks := by
  cases move with
  | dispatched reading =>
    cases done
    exact Dispatch.start_asks (shares.without reading)
  | resumed busy resumes =>
    cases done
    exact Dispatch.resume?_asks (shares.waits busy) resumes
  | _ => cases done

/-- What a handler has done is done in its move. -/
theorem Move.effects_of_waiting (move : Move setup caller turn deed after) {stretch : Stretch}
    (done : deed.stretch? = some stretch) {wait : Wait} (waits : stretch.stage = .waiting wait) :
    after.effects = turn.effects ++ stretch.effects ∧ after.shared = stretch.shared := by
  cases move with
  | dispatched | resumed =>
    cases done
    rw [proceed_of_waiting waits]
    exact ⟨rfl, rfl⟩
  | _ => cases done

end Turn

/-- A move that sends a request for an account with a token, which the store has then. -/
structure Episode.Sends (episode : Episode) (account : Account) (token : Token) : Prop where
  sent : Effect.Send episode.after.effects account token
  stored : episode.after.shared.logins.cache.token? account = some token

namespace Gateway

/-- A token that a login for an account has been answered with. -/
def Regained (since : List Occurrence) (account : Account) (token : Token) : Prop :=
  ∃ number answer, .move number answer ∈ since ∧
    answer.deed.given? answer.before.session.activity = some (account, token)

/-- A session waits for the answer to a request: it has done nothing since the move that sent it. -/
def Asking (past since : List Occurrence) (number : Nat) (account : Account) (token : Token) :
    Prop :=
  ∃ call before, past = since ++ .move number call :: before ∧ call.Sends account token ∧
    ∀ other, .move number other ∈ since → other.deed = .quiet

/-- What the store may have for an account: the token that it had first, if any, or one that has
been given since. -/
def Dated (gateway : Gateway) (since : List Occurrence) (account : Account)
    (first : Option Token) : Prop :=
  ∀ held, gateway.shared.logins.cache.token? account = some held →
    first = some held ∨ Regained since account held

variable {setup : Setup} {policy : Policy} {capacity : Nat} {now : Time.Moment}
  {gateway before after : Gateway} {past since : List Occurrence} {number : Nat}
  {session : Session} {deed : Deed} {turn : Turn} {account : Account} {token : Token}
  {first : Option Token}

theorem Regained.later (regained : Regained since account token) (occurrence : Occurrence) :
    Regained (occurrence :: since) account token := by
  obtain ⟨number, answer, member, gives⟩ := regained
  exact ⟨number, answer, List.mem_cons_of_mem _ member, gives⟩

theorem Asking.later (asking : Asking past since number account token) {occurrence : Occurrence}
    (apart : ∀ episode, occurrence = .move number episode → episode.deed = .quiet) :
    Asking (occurrence :: past) (occurrence :: since) number account token := by
  obtain ⟨call, before, rfl, sends, quiet⟩ := asking
  refine ⟨call, before, rfl, sends, ?_⟩
  intro other member
  rcases List.mem_cons.mp member with same | member
  · exact apart other same.symm
  · exact quiet other member

/-- Whatever happens outside of the sessions brings no token. -/
theorem Outside.token? (outside : Outside before after) {held : Token}
    (stored : after.shared.logins.cache.token? account = some held) :
    before.shared.logins.cache.token? account = some held := by
  rcases outside.logins with same | ⟨dropped, same⟩
  · rwa [same] at stored
  · rw [same] at stored
    exact TokenCache.token?_of_remove stored

theorem Dated.outside (dated : Dated before since account first) (outside : Outside before after)
    (occurrence : Occurrence) : Dated after (occurrence :: since) account first := by
  intro held stored
  exact (dated held (outside.token? stored)).imp_right (·.later _)

theorem Dated.move (stock : gateway.setup.handlers = Handler.stock) (sound : Sound past gateway)
    (dated : Dated gateway since account first)
    (known : gateway.sessions.lookup number = some session)
    (move : Turn.Move gateway.setup number (session.turn gateway.shared) deed turn) :
    Dated (gateway.accept number turn).1
      (.move number ⟨session.turn gateway.shared, deed, turn⟩ :: since) account first := by
  intro held stored
  have follows := move.follows stock (sound.sessions number session known) (sound.sharesOf known)
  rcases follows.tokens account held stored with old | given
  · exact (dated held old).imp_right (·.later _)
  · exact .inr ⟨number, _, List.mem_cons_self, given⟩

/-- Whoever waits for the platform has sent a request, and what the store has for its account is
the token of this request or has come since. -/
theorem Course.asking (stock : setup.handlers = Handler.stock)
    (course : Course (.initial setup policy capacity now) past gateway)
    (known : gateway.sessions.lookup number = some session) {message : Message} {deadline : Nat}
    (busy : session.activity = .handling message (.platform account) deadline) :
    ∃ since token, Asking past since number account token ∧
      Dated gateway since account (some token) := by
  induction course generalizing session with
  | nil => cases known
  | @event past before after event effects course kind steps ih =>
    have sound := course.sound stock (.initial setup policy capacity now)
    have outside := sound.numbered.outside kind steps
    rcases outside.found number session known with old | idle
    · obtain ⟨since, token, asking, dated⟩ := ih old busy
      exact ⟨_, token, asking.later (by simp), dated.outside outside _⟩
    · rw [Session.pending?_of_handling busy] at idle
      cases idle
  | @move past gateway mover moved deed turn course there move ih =>
    have sound := course.sound stock (.initial setup policy capacity now)
    have stock' : gateway.setup.handlers = Handler.stock := by
      rw [course.setup_eq]
      exact stock
    by_cases same : number = mover
    · subst same
      rw [lookup_accept_self] at known
      cases known
      rcases move.waits busy with ⟨stretch, done, -, waits, -⟩ | ⟨quiet, still, -⟩
      -- The request is sent in this very move.
      · obtain ⟨token, sent, stored⟩ :=
          move.stretch_asks (sound.sharesOf there) done account waits
        obtain ⟨effects, shared⟩ := move.effects_of_waiting done waits
        rw [← shared] at stored
        refine ⟨[], token, ⟨_, past, rfl, ⟨?_, stored⟩, by simp⟩, ?_⟩
        · rw [effects]
          exact sent
        · intro held kept
          exact .inl (stored.symm.trans kept)
      · obtain ⟨since, token, asking, dated⟩ := ih there still
        refine ⟨_, token, asking.later ?_, dated.move stock' sound there move⟩
        rintro _ ⟨⟩
        exact quiet
    · rw [lookup_accept_of_ne same] at known
      obtain ⟨since, token, asking, dated⟩ := ih known busy
      refine ⟨_, token, asking.later ?_, dated.move stock' sound there move⟩
      rintro _ ⟨⟩
      exact (same rfl).elim

/-- A session is told that the token of its request is refused. -/
def Refused (episode : Episode) : Prop :=
  ∃ message stretch, episode.deed = .resumed message (.platform (.error .unauthorized)) stretch

/-- What the record says of a refusal: the request that is refused, with its account and its token,
and what has become of the store. -/
structure Refusal (earlier since : List Occurrence) (number : Nat) (refusal : Episode)
    (account : Account) (token : Token) : Prop where
  asking : Asking earlier since number account token
  dated : ∀ held, refusal.before.shared.logins.cache.token? account = some held →
    some token = some held ∨ Regained since account held
  drops : refusal.after.shared.logins = refusal.before.shared.logins.invalidate account
  rests : refusal.after.session.Rests refusal.before.session.context
  entitled : ∃ password, refusal.before.session.context.tenant = some account.tenant ∧
    refusal.before.session.context.credentials = some ⟨account.user, password⟩

/-- Whoever is refused has asked, and drops what the store has for its account. -/
theorem Course.refusal (stock : setup.handlers = Handler.stock) {later earlier : List Occurrence}
    {episode : Episode} (course : Course (.initial setup policy capacity now)
      (later ++ .move number episode :: earlier) gateway) (refused : Refused episode) :
    ∃ since account token, Refusal earlier since number episode account token := by
  obtain ⟨start, deed, turn⟩ := episode
  obtain ⟨message, stretch, told⟩ := refused
  dsimp only at told
  subst told
  obtain ⟨before, session, upTo, known, same, move⟩ := course.split
  dsimp only at same move
  subst same
  have sound := upTo.sound stock (.initial setup policy capacity now)
  have shared := move.shared_eq
  cases move with
  | @resumed _ wait deadline _ _ busy resumes =>
    cases wait with
    | platform account =>
      obtain ⟨since, token, asking, dated⟩ := upTo.asking stock known busy
      obtain ⟨-, -, tenant, password, named⟩ :=
        (sound.sessions number session known).waiting _ _ _ busy
      cases resumes
      exact ⟨since, account, token, asking, dated, congrArg Shared.logins shared,
        Turn.answer_rests _ _ _, password, tenant, named⟩
    | _ => cases resumes

/-- Whatever happens between a request and the refusal of its token, the refusal drops no other
entry than the one of the request's account, so all others have their tokens as before. And what it
drops is the refused token, or one that another session has got in between by logging in to the same
account. -/
theorem refusal_drops_own_entry (stock : setup.handlers = Handler.stock)
    (course : Course (.initial setup policy capacity now) past gateway)
    {later earlier : List Occurrence} {refusal : Episode}
    (onRecord : past = later ++ .move number refusal :: earlier) (refused : Refused refusal) :
    ∃ since account token, Asking earlier since number account token ∧
      let store := refusal.before.shared.logins.cache
      let left := refusal.after.shared.logins.cache
      left.token? account = none ∧
        (∀ other, other ≠ account → left.token? other = store.token? other ∧
          ∀ moment, (left.get other moment).1 = (store.get other moment).1) ∧
        ∀ dropped, store.token? account = some dropped → dropped = token ∨
          ∃ other answer, other ≠ number ∧ .move other answer ∈ since ∧
            answer.deed.given? answer.before.session.activity = some (account, dropped) := by
  subst onRecord
  obtain ⟨since, account, token, record⟩ := course.refusal stock refused
  have left : refusal.after.shared.logins.cache =
      refusal.before.shared.logins.cache.remove account := by
    rw [record.drops]
    rfl
  have others {other : Account} (differs : other ≠ account) :
      refusal.after.shared.logins.cache.token? other =
        refusal.before.shared.logins.cache.token? other := by
    rw [left]
    exact TokenCache.token?_remove_of_ne differs
  refine ⟨since, account, token, record.asking, ?_, ?_, ?_⟩
  · rw [left]
    exact TokenCache.token?_remove_self _ _
  · intro other differs
    refine ⟨others differs, fun moment => ?_⟩
    simp only [TokenCache.get, others differs]
  · intro dropped stored
    rcases record.dated dropped stored with same | ⟨other, answer, member, gives⟩
    · exact .inl (Option.some.inj same).symm
    · refine .inr ⟨other, answer, ?_, member, gives⟩
      -- The session itself has done nothing in between, so it has not been given a token.
      rintro rfl
      obtain ⟨-, -, -, -, quiet⟩ := record.asking
      rw [quiet answer member, Deed.given?_eq_none (by simp)] at gives
      cases gives

/-! A counter where items are looked up. -/

def counter : Gateway := .initial Desk.setup (Desk.policy false [.itemInformation]) 8 1000

/-- The counter with one terminal. -/
def opened : Gateway :=
  (counter.accept 0 (Session.start Desk.setup counter.shared "s" Desk.terminal 6443)).1

def connecting : Occurrence :=
  .event (.connected "s" Desk.terminal 6443)
    (counter.accept 0 (Session.start Desk.setup counter.shared "s" Desk.terminal 6443)).2

/-- The session of the terminal goes on as a stretch says. -/
def going (gateway : Gateway) (session : Session) (message : Message) (stretch : Stretch)
    (deed : Deed) : Episode where
  before := session.turn gateway.shared
  deed := deed
  after :=
    (session.turn gateway.shared).proceed Desk.setup message Desk.setup.requestTimeout stretch

/-- It takes up a new request. -/
def handing (gateway : Gateway) (session : Session) (frame : String) (message : Message) :
    Episode :=
  let stretch := Dispatch.start Desk.setup 0 message gateway.shared session.context
  going gateway session message stretch (.dispatched (Text.bytesOf frame) message stretch)

def loginFrame : String := "9300CNu|COp|"

def itemFrame : String := "1720250101    120000AOmain|ABb1|"

/-- The terminal logs in. -/
def entering : Episode := handing opened (Desk.session (Desk.policy false [.itemInformation]))
  loginFrame Session.loginRequest

def entered : Gateway := (opened.accept 0 entering.after).1

/-- The platform gives a token. -/
def accepted : Episode :=
  let stretch := Dispatch.loginEnded Session.loginRequest ⟨.login, Desk.account, "p"⟩
    ⟨0, Desk.account, 0, some 11250⟩ (.ok Desk.token) entered.shared entering.after.session.context
  going entered entering.after.session Session.loginRequest stretch
    (.resumed Session.loginRequest (.login (.ok Desk.token)) stretch)

def served : Gateway := (entered.accept 0 accepted.after).1

/-- An item is asked for. -/
def asking : Episode := handing served accepted.after.session itemFrame Session.itemRequest

def asked : Gateway := (served.accept 0 asking.after).1

/-- The platform refuses the token. -/
def refusing : Episode :=
  let stretch := Dispatch.platformAnswered Desk.setup Session.itemRequest Desk.account
    (.error .unauthorized) asked.shared asking.after.session.context
  going asked asking.after.session Session.itemRequest stretch
    (.resumed Session.itemRequest (.platform (.error .unauthorized)) stretch)

def turnedAway : Gateway := (asked.accept 0 refusing.after).1

theorem refusing_course :
    Course counter
      [.move 0 refusing, .move 0 asking, .move 0 accepted, .move 0 entering, connecting]
      turnedAway := by
  have comes : Course counter [connecting] opened := .event .nil rfl rfl
  have enters : Course counter [.move 0 entering, connecting] entered :=
    .move comes rfl (.dispatched (by decide +kernel) (ok_of_toOption (by decide +kernel))
      (by decide) (by decide +kernel) (by decide +kernel))
  have hasToken : Course counter [.move 0 accepted, .move 0 entering, connecting] served :=
    .move enters rfl (.resumed rfl rfl)
  have asks : Course counter [.move 0 asking, .move 0 accepted, .move 0 entering, connecting]
      asked :=
    .move hasToken rfl (.dispatched (by decide +kernel) (ok_of_toOption (by decide +kernel))
      (by decide) (by decide +kernel) (by decide +kernel))
  exact .move asks rfl (.resumed rfl rfl)

theorem refusal_drops_own_entry_counter :
    refusing.before.shared.logins.cache.token? Desk.account = some Desk.token ∧
      Refused refusing ∧
      ∃ since account token,
        Asking [.move 0 asking, .move 0 accepted, .move 0 entering, connecting] since 0 account
          token ∧
        refusing.after.shared.logins.cache.token? account = none := by
  have refused : Refused refusing := ⟨_, _, rfl⟩
  obtain ⟨since, account, token, asking, gone, -⟩ :=
    refusal_drops_own_entry rfl refusing_course (List.nil_append _).symm refused
  exact ⟨by decide +kernel, refused, since, account, token, asking, gone⟩

def renewed : Token := ⟨"l", 4000, 5000⟩

/-- Two terminals are logged in as the same user. One has sent a request when its token goes stale;
the other one logs in again. -/
def rivals : List Event :=
  [.connected "s" Desk.terminal 6443, .connected "t" Desk.terminal 6443,
    .signal 0 (.received (Desk.line loginFrame)), .signal 0 (.reply (.login (.ok Desk.token))),
    .signal 1 (.received (Desk.line loginFrame)), .signal 0 (.received (Desk.line itemFrame)),
    .wallClockSet 2500, .signal 1 (.received (Desk.line itemFrame)),
    .signal 1 (.reply (.login (.ok renewed)))]

/-- When the request of the first is refused, the fresh token of the second is dropped. -/
theorem refusal_drops_newer_token :
    ∃ before after effects later, Run counter rivals before effects ∧
      effects.filterMap (fun effect => effect.2.request?.map fun request =>
        (effect.1, request.token)) = [(0, "k"), (1, "l")] ∧
      before.shared.logins.cache.token? Desk.account = some renewed ∧
      renewed.isStale before.shared.now = false ∧
      before.step (.signal 0 (.reply (.platform (.error .unauthorized)))) = some (after, later) ∧
      after.shared.logins.cache.token? Desk.account = none := by
  have works : (counter.perform? rivals).any (fun performed =>
      performed.2.filterMap (fun effect => effect.2.request?.map fun request =>
        (effect.1, request.token)) = [(0, "k"), (1, "l")] &&
      performed.1.shared.logins.cache.token? Desk.account = some renewed &&
      renewed.isStale performed.1.shared.now = false &&
      (performed.1.step (.signal 0 (.reply (.platform (.error .unauthorized))))).any
        fun next => next.1.shared.logins.cache.token? Desk.account = none) = true := by
    decide +kernel
  obtain ⟨⟨before, effects⟩, performs, seen⟩ := (Option.any_eq_true _ _).mp works
  simp only [Bool.and_eq_true, decide_eq_true_eq] at seen
  obtain ⟨⟨⟨requests, held⟩, fresh⟩, refused⟩ := seen
  obtain ⟨⟨after, later⟩, steps, gone⟩ := (Option.any_eq_true _ _).mp refused
  exact ⟨before, after, effects, later, Run.perform? .none performs, requests, held, fresh, steps,
    by simpa using gone⟩

end Gateway

end SelfCheck
