import SelfCheck.Proofs.Gateway.Refusals
import SelfCheck.Proofs.Session.Binding

/-! After a refusal.

A refused token is out of the store, and only the answer to a login can bring a token of its account
back. So whoever looks for one after that finds nothing but what a later login has given; and a
session that has the gateway for itself logs in again with its next request.
-/

set_option autoImplicit false

namespace SelfCheck

/-- A look at the store that finds a token, of a caller that comes or of one that goes in. -/
def Logins.Serves (logins : Logins) (account : Account) (moment : Time.Moment) (token : Token) :
    Prop :=
  (∃ caller, (logins.arrive caller account moment).1 = some token) ∨
    ∃ share deadline, share.account = account ∧
      (logins.enter share moment deadline).1 = some token

theorem Logins.Serves.held {logins : Logins} {account : Account} {moment : Time.Moment}
    {token : Token} (serves : logins.Serves account moment token) :
    logins.cache.token? account = some token := by
  rcases serves with ⟨caller, served⟩ | ⟨share, deadline, rfl, served⟩
  · exact (Logins.arrive_served (Prod.ext served rfl)).1
  · exact (Logins.enter_served (Prod.ext served rfl)).1

/-- Only logins and business requests wait for anything. -/
theorem Context.Awaits.login_or_business {context : Context} {message : Message} {wait : Wait}
    (awaits : context.Awaits message wait) :
    message.command = some .login ∨ message.isBusiness = true := by
  cases wait with
  | token wish =>
    obtain ⟨-, purpose⟩ := awaits
    cases aim : wish.purpose with
    | login =>
      simp only [aim] at purpose
      exact .inl purpose.1
    | forward =>
      simp only [aim] at purpose
      exact .inr purpose.1
  | platform account => exact .inr awaits.1
  | handler => exact awaits.elim

/-- A login of the session succeeds, or a business request of it is handed to its handler. -/
def Deed.Renews (deed : Deed) : Prop :=
  (∃ message model, deed.outcome? = some (message, .success .login model)) ∨
    ∃ frame message stretch, deed = .dispatched frame message stretch ∧ message.isBusiness = true

/-- A login that gets its token succeeds. -/
theorem Turn.Move.login_succeeds {setup : Setup} {caller : Nat} {turn after : Turn} {deed : Deed}
    (sound : turn.session.Sound) (move : Move setup caller turn deed after) {account : Account}
    {token : Token} (gives : deed.given? turn.session.activity = some (account, token))
    {message : Message} {wait : Wait} {deadline : Nat}
    (busy : turn.session.activity = .handling message wait deadline)
    (login : message.command = some .login) : deed.Renews := by
  obtain ⟨message', wish, deadline', stretch, share, rfl, busy', -⟩ := move.given gives
  cases busy.symm.trans busy'
  have aim := Dispatch.purpose_of_awaits (sound.waiting _ _ _ busy) login
  cases move with
  | resumed busy' resumes =>
    cases busy.symm.trans busy'
    cases Dispatch.resumption_of_resume? resumes with
    | login =>
      refine .inl ⟨message, Answer.flag true, ?_⟩
      simp [Deed.outcome?, Stretch.result?, Dispatch.loginEnded, Stretch.after, Dispatch.granted,
        aim, Dispatch.rest, Dispatch.outcome, login]

namespace Gateway

variable {setup : Setup} {policy : Policy} {capacity : Nat} {now : Time.Moment}
  {gateway middle before after : Gateway} {past later earlier since : List Occurrence}
  {number : Nat} {session : Session} {deed : Deed} {turn : Turn} {refusal request : Episode}
  {account : Account} {token : Token} {first : Option Token} {password : String}

theorem Course.dated (stock : setup.handlers = Handler.stock)
    (upTo : Course (.initial setup policy capacity now) past middle)
    (dated : Dated middle [] account first) (course : Course middle later gateway) :
    Dated gateway later account first := by
  induction course with
  | nil => exact dated
  | event course kind steps ih =>
    have sound := (upTo.append course).sound stock (.initial setup policy capacity now)
    exact ih.outside (sound.numbered.outside kind steps) _
  | move course known move ih =>
    have sound := (upTo.append course).sound stock (.initial setup policy capacity now)
    refine ih.move ?_ sound known move
    rw [(upTo.append course).setup_eq]
    exact stock

/-- From a refusal on the store has no token for the account but one that has been given since. -/
theorem Course.renewed (stock : setup.handlers = Handler.stock)
    (course : Course (.initial setup policy capacity now)
      (later ++ .move number refusal :: earlier) gateway)
    (record : Refusal earlier since number refusal account token) :
    Dated gateway later account none := by
  obtain ⟨middle, upTo, course⟩ := course.cut
  refine Course.dated stock upTo ?_ course
  intro held stored
  have gone : refusal.after.shared.logins.cache.token? account = none := by
    rw [record.drops]
    exact TokenCache.token?_remove_self _ _
  cases upTo with
  | move => cases gone.symm.trans stored

/-- A request that is sent for the account after a refusal has a token that has been given since. -/
theorem Course.sends_renewed (stock : setup.handlers = Handler.stock) {between : List Occurrence}
    {caller : Nat} {call : Episode}
    (course : Course (.initial setup policy capacity now)
      (later ++ .move caller call :: (between ++ .move number refusal :: earlier)) gateway)
    (record : Refusal earlier since number refusal account token) {sent : PlatformRequest}
    (sends : .execute sent ∈ call.after.effects) (tenant : sent.tenant = account.tenant)
    (user : call.before.session.context.credentials = some ⟨account.user, password⟩) :
    ∃ served, sent.token = served.text ∧
      Regained (.move caller call :: between) account served := by
  obtain ⟨start, deed, turn⟩ := call
  obtain ⟨before, session, upTo, known, same, move⟩ := course.split
  dsimp only at same move sends user ⊢
  subst same
  have sound := upTo.sound stock (.initial setup policy capacity now)
  have stock' : before.setup.handlers = Handler.stock := by
    rw [upTo.setup_eq]
    exact stock
  have fair := sound.sessions caller session known
  obtain ⟨stretch, done, made⟩ := move.called rfl rfl sends
  obtain ⟨message, asked⟩ := move.request_of_stretch done
  have handled := move.stretch_sound stock' fair done asked
  have traced := move.traced stock' fair (sound.sharesOf known) done asked
  obtain ⟨name, -, waits, -⟩ := traced.sends sent made
  -- The request is for the user of the session, so it is for this account.
  obtain ⟨business, -, -, own, named⟩ := handled.waiting _ waits
  rw [handled.unchanged business] at named
  obtain rfl : account = ⟨sent.tenant, name⟩ := by
    cases user.symm.trans named
    rw [tenant]
  obtain ⟨served, asks, stored⟩ := move.stretch_asks (sound.sharesOf known) done _ waits
  refine ⟨served, (asks.all sent made).2, ?_⟩
  rw [← (move.effects_of_waiting done waits).2] at stored
  have next := upTo.move known move
  rw [← List.cons_append] at next
  rcases next.renewed stock record served stored with absent | regained
  · cases absent
  · exact regained

/-! A gateway with a single session. -/

/-- A session goes by credentials for an account that the store has no token of. It may be in the
middle of a login, but of nothing else. -/
structure Tokenless (gateway : Gateway) (number : Nat) (account : Account) (password : String) :
    Prop where
  session : ∃ session, gateway.sessions.lookup number = some session ∧
    session.context.tenant = some account.tenant ∧
    session.context.credentials = some ⟨account.user, password⟩ ∧
    ∀ message wait deadline, session.activity = .handling message wait deadline →
      message.command = some .login
  gone : gateway.shared.logins.cache.token? account = none

theorem Tokenless.outside (tokenless : Tokenless before number account password)
    (outside : Outside before after) : Tokenless after number account password := by
  obtain ⟨⟨session, known, own⟩, gone⟩ := tokenless
  refine ⟨⟨session, outside.kept _ _ known, own⟩, ?_⟩
  rw [Option.eq_none_iff_forall_ne_some] at gone ⊢
  exact fun token stored => gone token (outside.token? stored)

theorem Tokenless.move (stock : gateway.setup.handlers = Handler.stock)
    (sound : Sound past gateway) (tokenless : Tokenless gateway number account password)
    (known : gateway.sessions.lookup number = some session)
    (move : Turn.Move gateway.setup number (session.turn gateway.shared) deed turn)
    (idle : ¬deed.Renews) : Tokenless (gateway.accept number turn).1 number account password := by
  obtain ⟨⟨session', known', tenant, credentials, login⟩, gone⟩ := tokenless
  cases known.symm.trans known'
  have fair := sound.sessions number session known
  obtain ⟨same, -⟩ := move.outside stock fair fun message model succeeds =>
    idle (.inl ⟨message, model, succeeds⟩)
  refine ⟨⟨turn.session, lookup_accept_self _ _ _, ?_, same.trans credentials, ?_⟩, ?_⟩
  · have stays := (move.stays stock fair).tenant (by rw [Session.turn, tenant]; rfl)
    exact stays.trans tenant
  · intro message wait deadline busy
    rcases move.waits busy with ⟨stretch, done, asked, waits, -⟩ | ⟨-, before, -⟩
    · have awaits := (move.stretch_sound stock fair done asked).waiting _ waits
      cases move with
      | dispatched =>
        cases asked
        exact awaits.login_or_business.resolve_right fun business =>
          idle (.inr ⟨_, _, _, rfl, business⟩)
      | resumed before =>
        cases asked
        exact login _ _ _ before
      | _ => cases done
    · exact login _ _ _ before
  · rw [Option.eq_none_iff_forall_ne_some] at gone ⊢
    intro token stored
    rcases (move.follows stock fair (sound.sharesOf known)).tokens account token stored with
      old | given
    · exact gone token old
    · obtain ⟨message, wish, deadline, -, -, -, busy, -⟩ := move.given given
      exact idle (move.login_succeeds fair given busy (login _ _ _ busy))

/-- So it is right after a refusal. -/
theorem Refusal.tokenless (record : Refusal earlier since number refusal account token)
    (course : Course before (.move number refusal :: earlier) after)
    (named : refusal.before.session.context.credentials = some ⟨account.user, password⟩) :
    Tokenless after number account password := by
  obtain ⟨own, tenant, -⟩ := record.entitled
  obtain ⟨keeps, rests⟩ := record.rests
  cases course with
  | move course known move =>
    refine ⟨⟨_, lookup_accept_self _ _ _, ?_, ?_, ?_⟩, ?_⟩
    · rcases keeps with same | closed
      · rwa [same]
      · rwa [closed]
    · rcases keeps with same | closed
      · rwa [same]
      · rwa [closed]
    · intro message wait deadline busy
      rw [Session.pending?_of_handling busy] at rests
      cases rests
    · exact (congrArg (fun logins : Logins => logins.cache.token? account) record.drops).trans
        (TokenCache.token?_remove_self _ _)

theorem Course.tokenless (stock : setup.handlers = Handler.stock)
    (upTo : Course (.initial setup policy capacity now) past middle)
    (tokenless : Tokenless middle number account password) (course : Course middle later gateway)
    (alone : ∀ other episode, .move other episode ∈ later → other = number)
    (idle : ∀ episode, .move number episode ∈ later → ¬episode.deed.Renews) :
    Tokenless gateway number account password := by
  induction course with
  | nil => exact tokenless
  | event course kind steps ih =>
    have sound := (upTo.append course).sound stock (.initial setup policy capacity now)
    have before := ih (fun other episode member => alone other episode (.tail _ member))
      fun episode member => idle episode (.tail _ member)
    exact before.outside (sound.numbered.outside kind steps)
  | move course known move ih =>
    have sound := (upTo.append course).sound stock (.initial setup policy capacity now)
    have before := ih (fun other episode member => alone other episode (.tail _ member))
      fun episode member => idle episode (.tail _ member)
    obtain rfl := alone _ _ (.head _)
    refine before.move ?_ sound known move (idle _ (.head _))
    rw [(upTo.append course).setup_eq]
    exact stock

/-- Sessions keep their numbers. -/
theorem Course.keeps_known (stock : setup.handlers = Handler.stock)
    (upTo : Course (.initial setup policy capacity now) past middle)
    (course : Course middle later gateway)
    (known : ∃ session, middle.sessions.lookup number = some session) :
    ∃ session, gateway.sessions.lookup number = some session := by
  induction course with
  | nil => exact known
  | event course kind steps ih =>
    obtain ⟨session, found⟩ := ih
    have sound := (upTo.append course).sound stock (.initial setup policy capacity now)
    exact ⟨session, (sound.numbered.outside kind steps).kept _ _ found⟩
  | @move _ _ mover =>
    by_cases same : number = mover
    · subst same
      exact ⟨_, lookup_accept_self _ _ _⟩
    · rw [lookup_accept_of_ne same]
      assumption

/-- While there is one session, it is the only one that there has been. -/
theorem Course.single (stock : setup.handlers = Handler.stock)
    (upTo : Course (.initial setup policy capacity now) past middle)
    (course : Course middle later gateway) (single : gateway.sessions.length = 1)
    (known : middle.sessions.lookup number = some session) : number = 0 := by
  obtain ⟨session, found⟩ := upTo.keeps_known stock course ⟨_, known⟩
  have sound := (upTo.append course).sound stock (.initial setup policy capacity now)
  have first := sound.numbered.lt_of_lookup found
  omega

theorem Course.single_mover (stock : setup.handlers = Handler.stock)
    (course : Course (.initial setup policy capacity now) past gateway)
    (single : gateway.sessions.length = 1) {episode : Episode}
    (member : .move number episode ∈ past) : number = 0 := by
  obtain ⟨later, earlier, rfl⟩ := List.append_of_mem member
  obtain ⟨middle, upTo, onward⟩ := course.cut
  cases upTo with
  | move before known move =>
    have next := Course.move before known move
    exact next.single stock onward single (lookup_accept_self _ _ _)

/-- A business request in such a gateway begins with a login, before anything else. -/
theorem Tokenless.asks (stock : gateway.setup.handlers = Handler.stock)
    (sound : Sound past gateway) (orderly : gateway.shared.logins.Orderly)
    (alone : ∀ other session, gateway.sessions.lookup other = some session → other = number)
    (tokenless : Tokenless gateway number account password)
    (known : gateway.sessions.lookup number = some session) {frame : List UInt8}
    {message : Message} {stretch : Stretch}
    (move : Turn.Move gateway.setup number (session.turn gateway.shared)
      (.dispatched frame message stretch) turn) (business : message.isBusiness = true) :
    session.context.credentials = some ⟨account.user, password⟩ ∧
      turn.calls = [.login account password] ∧
      stretch.stage = .waiting (.token ⟨.forward, account, password⟩) := by
  obtain ⟨⟨session', known', tenant, credentials, -⟩, gone⟩ := tokenless
  cases known.symm.trans known'
  have calls := move.calls_eq
  cases move with
  | dispatched reading =>
    have free := (sound.sharesOf known).without reading
    -- Nobody else is there, and this session waits for nothing.
    have empty : gateway.shared.logins.queue account = [] := by
      rw [List.eq_nil_iff_forall_not_mem]
      intro share member
      have held := (Logins.mem_queue.mp member).1
      obtain ⟨other, -, -, -, found, -⟩ := sound.shares share held
      exact free share held (alone _ _ found)
    have lacks : gateway.shared.logins.cache.Lacks account gateway.shared.now := by
      intro token held
      cases gone.symm.trans held
    have forwards : Dispatch.start gateway.setup number message gateway.shared session.context =
        Dispatch.wantToken gateway.setup number message ⟨.forward, account, password⟩
          gateway.shared session.context := by
      rw [Dispatch.start_eq_forward stock business, Dispatch.forward, tenant, credentials]
    obtain ⟨waits, effects, -⟩ := @Dispatch.wantToken_of_lacks gateway.setup number message
      ⟨.forward, account, password⟩ gateway.shared session.context orderly free empty lacks
    rw [← forwards] at waits effects
    refine ⟨credentials, calls.trans ?_, waits⟩
    simp [Deed.calls, Deed.stretch?, Session.turn, Turn.calls, effects, Effect.isCall]

/-- After a refusal, and until a login is handed over, the next business request of the only session
logs in again. -/
theorem Course.asks_again (stock : setup.handlers = Handler.stock) {between : List Occurrence}
    (course : Course (.initial setup policy capacity now)
      (later ++ .move number request :: (between ++ .move number refusal :: earlier)) gateway)
    (record : Refusal earlier since number refusal account token)
    (named : refusal.before.session.context.credentials = some ⟨account.user, password⟩)
    (single : gateway.sessions.length = 1) {frame : List UInt8} {message : Message}
    {stretch : Stretch} (handed : request.deed = .dispatched frame message stretch)
    (business : message.isBusiness = true)
    (idle : ∀ episode, .move number episode ∈ between → ¬episode.deed.Renews) :
    request.before.session.context.credentials = some ⟨account.user, password⟩ ∧
      request.after.calls = [.login account password] ∧
      stretch.stage = .waiting (.token ⟨.forward, account, password⟩) := by
  have mover {other : Nat} {episode : Episode} (member : .move other episode ∈ between) :
      other = number := by
    have own := course.single_mover stock single
      (show Occurrence.move number request ∈ _ by simp)
    have moves := course.single_mover stock single
      (show Occurrence.move other episode ∈ _ by simp [member])
    exact moves.trans own.symm
  obtain ⟨next, reached, rest⟩ := course.cut
  cases reached with
  | @move _ before _ session deed turn upTo known move =>
    dsimp only at handed
    subst handed
    have sound := upTo.sound stock (.initial setup policy capacity now)
    have stock' : before.setup.handlers = Handler.stock := by
      rw [upTo.setup_eq]
      exact stock
    have onward := (Course.nil.move known move).append rest
    have alone (other : Nat) (session' : Session)
        (found : before.sessions.lookup other = some session') : other = number :=
      (upTo.single stock onward single found).trans (upTo.single stock onward single known).symm
    obtain ⟨middle, first, between'⟩ := upTo.cut
    have tokenless : Tokenless middle number account password := record.tokenless first named
    have still := first.tokenless stock tokenless between' (fun _ _ => mover) idle
    exact still.asks stock' sound (upTo.orderly stock) alone known move business

/-- After a session has been told that its token is refused, nobody who looks for a token of its
account finds one but what a login has given since, and no request is sent for it with another. In a
gateway with a single session the next business request logs in again with the credentials that the
session has kept, and waits for that before anything else, unless a login of the session has
succeeded in between. -/
theorem refused_token_renewed (stock : setup.handlers = Handler.stock)
    (course : Course (.initial setup policy capacity now) past gateway)
    {later earlier : List Occurrence} {refusal : Episode}
    (onRecord : past = later ++ .move number refusal :: earlier) (refused : Refused refusal) :
    ∃ since account token password, Asking earlier since number account token ∧
      refusal.before.session.context.tenant = some account.tenant ∧
      refusal.before.session.context.credentials = some ⟨account.user, password⟩ ∧
      (∀ moment served, gateway.shared.logins.Serves account moment served →
        Regained later account served) ∧
      (∀ last caller call between sent own, later = last ++ .move caller call :: between →
        .execute sent ∈ call.after.effects → sent.tenant = account.tenant →
        call.before.session.context.credentials = some ⟨account.user, own⟩ →
        ∃ served, sent.token = served.text ∧
          Regained (.move caller call :: between) account served) ∧
      (gateway.sessions.length = 1 →
        ∀ last request between frame message stretch,
          later = last ++ .move number request :: between →
          request.deed = .dispatched frame message stretch → message.isBusiness = true →
          (∀ episode, .move number episode ∈ between → ¬episode.deed.Renews) →
          request.before.session.context.credentials = some ⟨account.user, password⟩ ∧
            request.after.calls = [.login account password] ∧
            stretch.stage = .waiting (.token ⟨.forward, account, password⟩)) := by
  subst onRecord
  obtain ⟨since, account, token, record⟩ := course.refusal stock refused
  obtain ⟨password, tenant, named⟩ := record.entitled
  refine ⟨since, account, token, password, record.asking, tenant, named, ?_, ?_, ?_⟩
  · intro moment served serves
    rcases course.renewed stock record served serves.held with absent | regained
    · cases absent
    · exact regained
  · rintro last caller call between sent own rfl sends tenant user
    rw [List.append_assoc] at course
    exact course.sends_renewed stock record sends tenant user
  · rintro single last request between frame message stretch rfl handed business idle
    rw [List.append_assoc] at course
    exact course.asks_again stock record named single handed business idle

/-- The item is asked for again. -/
def askingAgain : Episode :=
  handing turnedAway refusing.after.session itemFrame Session.itemRequest

theorem refused_token_renewed_counter :
    Refused refusing ∧ askingAgain.after.calls = [.login Desk.account "p"] ∧
      askingAgain.before.session.context.credentials = some ⟨"u", "p"⟩ := by
  have refused : Refused refusing := ⟨_, _, rfl⟩
  have course : Course counter
      ([.move 0 askingAgain] ++ .move 0 refusing :: [.move 0 asking, .move 0 accepted,
        .move 0 entering, connecting]) (turnedAway.accept 0 askingAgain.after).1 :=
    .move refusing_course rfl (.dispatched (by decide +kernel)
      (ok_of_toOption (by decide +kernel)) (by decide) (by decide +kernel) (by decide +kernel))
  obtain ⟨since, ⟨place, user⟩, token, password, -, tenant, named, -, -, again⟩ :=
    refused_token_renewed rfl course rfl refused
  obtain ⟨kept, calls, -⟩ := again rfl [] askingAgain [] _ Session.itemRequest _ rfl rfl
    (by decide) (by simp)
  have credentials : askingAgain.before.session.context.credentials = some ⟨"u", "p"⟩ := by
    decide +kernel
  have library : refusing.before.session.context.tenant = some Desk.library := by decide +kernel
  cases credentials.symm.trans kept
  cases library.symm.trans tenant
  exact ⟨refused, calls, credentials⟩

/-- A terminal whose token is refused logs in again itself before it goes on. -/
def returning : List Event :=
  [.connected "s" Desk.terminal 6443, .signal 0 (.received (Desk.line loginFrame)),
    .signal 0 (.reply (.login (.ok Desk.token))), .signal 0 (.received (Desk.line itemFrame)),
    .signal 0 (.reply (.platform (.error .unauthorized))),
    .signal 0 (.received (Desk.line loginFrame)), .signal 0 (.reply (.login (.ok renewed)))]

/-- Its next business request does without a login of its own. -/
theorem refused_token_renewed_by_login :
    ∃ before after effects later, Run counter returning before effects ∧
      before.sessions.length = 1 ∧
      effects.filterMap (fun effect => effect.2.request?.map (·.token)) = ["k"] ∧
      before.step (.signal 0 (.received (Desk.line itemFrame))) = some (after, later) ∧
      later.filterMap (fun effect => effect.2.password?) = [] ∧
      later.filterMap (fun effect => effect.2.request?.map (·.token)) = ["l"] := by
  have works : (counter.perform? returning).any (fun performed =>
      performed.1.sessions.length = 1 &&
      performed.2.filterMap (fun effect => effect.2.request?.map (·.token)) = ["k"] &&
      (performed.1.step (.signal 0 (.received (Desk.line itemFrame)))).any fun next =>
        next.2.filterMap (fun effect => effect.2.password?) = [] &&
        next.2.filterMap (fun effect => effect.2.request?.map (·.token)) = ["l"]) = true := by
    decide +kernel
  obtain ⟨⟨before, effects⟩, performs, seen⟩ := (Option.any_eq_true _ _).mp works
  simp only [Bool.and_eq_true, decide_eq_true_eq] at seen
  obtain ⟨⟨single, sent⟩, next⟩ := seen
  obtain ⟨⟨after, later⟩, steps, last⟩ := (Option.any_eq_true _ _).mp next
  simp only [Bool.and_eq_true, decide_eq_true_eq] at last
  exact ⟨before, after, effects, later, Run.perform? .none performs, single, sent, steps, last⟩

end Gateway

end SelfCheck
