import SelfCheck.Gateway
import SelfCheck.Proofs.Session.Course

/-! The courses that a gateway can take.

What is on record of a gateway are the moves of its sessions, in the order in which they come, and
the other things that happen to it. Every run of a gateway is such a course with the same effects.
-/

set_option autoImplicit false

namespace SelfCheck

/-- What is on record of a gateway. -/
inductive Occurrence where
  | event (event : Gateway.Event) (effects : List (Nat × Effect))
  /-- A move of the session with a number. -/
  | move (number : Nat) (episode : Episode)

namespace Occurrence

def effects : Occurrence → List (Nat × Effect)
  | event _ effects => effects
  | move number episode => episode.after.effects.map (number, ·)

end Occurrence

/-- Whether an event happens to one session. -/
def Gateway.Event.isSignal : Gateway.Event → Bool
  | .signal .. => true
  | _ => false

/-- A gateway from its origin on, with everything on record, the latest first. -/
inductive Gateway.Course (origin : Gateway) : List Occurrence → Gateway → Prop where
  | nil : Course origin [] origin
  | event {past : List Occurrence} {before after : Gateway} {event : Event}
      {effects : List (Nat × Effect)} :
      Course origin past before → event.isSignal = false →
      before.step event = some (after, effects) →
      Course origin (.event event effects :: past) after
  | move {past : List Occurrence} {gateway : Gateway} {number : Nat} {session : Session}
      {deed : Deed} {turn : Turn} :
      Course origin past gateway → gateway.sessions.lookup number = some session →
      Turn.Move gateway.setup number (session.turn gateway.shared) deed turn →
      Course origin (.move number ⟨session.turn gateway.shared, deed, turn⟩ :: past)
        (gateway.accept number turn).1

namespace Gateway

variable {origin gateway : Gateway} {past : List Occurrence}

theorem accept_accept (gateway : Gateway) (number : Nat) (first second : Turn) :
    ((gateway.accept number first).1.accept number second).1 =
      (gateway.accept number second).1 := by
  simp [accept, Sorted.put_put]

theorem lookup_accept_self (gateway : Gateway) (number : Nat) (turn : Turn) :
    (gateway.accept number turn).1.sessions.lookup number = some turn.session :=
  Sorted.lookup_put_self _ _ _

theorem lookup_accept_of_ne {number other : Nat} (differs : other ≠ number) (gateway : Gateway)
    (turn : Turn) :
    (gateway.accept number turn).1.sessions.lookup other = gateway.sessions.lookup other :=
  Sorted.lookup_put_of_ne differs _ _

/-- The moves of a turn, one after the other. -/
theorem Course.chain {number : Nat} {session : Session} {episodes : List Episode} {turn : Turn}
    (course : Course origin past gateway)
    (known : gateway.sessions.lookup number = some session)
    (chain : Turn.Chain gateway.setup number (session.turn gateway.shared) episodes turn) :
    (episodes = [] ∧ turn = session.turn gateway.shared) ∨
      Course origin (episodes.map (.move number) ++ past) (gateway.accept number turn).1 := by
  -- The gateway is compared only once there is a move: then the session has been put in its place,
  -- and putting it there again replaces it.
  induction chain with
  | nil => exact .inl ⟨rfl, rfl⟩
  | @more episodes before after deed chain move _ ih =>
    rcases ih with ⟨rfl, rfl⟩ | further
    · exact .inr (.move course known move)
    · have next := Course.move further (lookup_accept_self gateway number before) move
      rw [accept_accept] at next
      exact .inr next

/-- What a gateway does is its course, with the effects in their order. -/
theorem Run.course {events : List Event} {effects : List (Nat × Effect)}
    (run : Run origin events gateway effects) :
    ∃ past, Course origin past gateway ∧ effects = past.reverse.flatMap Occurrence.effects := by
  induction run with
  | none => exact ⟨[], .nil, rfl⟩
  | @more events before after event earlier later run steps ih =>
    obtain ⟨past, course, rfl⟩ := ih
    cases kind : event.isSignal with
    | false =>
      refine ⟨_, .event course kind steps, ?_⟩
      simp [Occurrence.effects]
    | true =>
      cases event with
      | signal number signal =>
        obtain ⟨session, known, goes⟩ := Option.bind_eq_some_iff.mp steps
        obtain ⟨turn, stepped, same⟩ := Option.map_eq_some_iff.mp goes
        cases same
        obtain ⟨middle, first, chain⟩ := Session.step?_chain stepped
        -- A turn has a move at least; without one the gateway might not be as it was.
        have some : middle ++ [first] ≠ [] := by simp
        generalize middle ++ [first] = episodes at chain some
        rcases course.chain known chain with ⟨empty, -⟩ | whole
        · exact (some empty).elim
        · refine ⟨_, whole, ?_⟩
          rw [chain.effects, List.reverse_append, List.flatMap_append, ← List.map_reverse,
            List.flatMap_map]
          simp [Session.turn, Occurrence.effects, List.map_flatMap]
      | _ => cases kind

/-! Sessions are numbered in the order in which they come, and no number is given twice. -/

def Numbered (gateway : Gateway) : Prop :=
  gateway.sessions.map (·.1) = List.range' 0 gateway.sessions.length

theorem Numbered.lt_of_lookup (numbered : gateway.Numbered) {number : Nat} {session : Session}
    (known : gateway.sessions.lookup number = some session) :
    number < gateway.sessions.length := by
  obtain ⟨front, back, whole, -⟩ := List.lookup_eq_some_iff.mp known
  have member : number ∈ gateway.sessions.map (·.1) := by
    rw [whole]
    simp
  rw [numbered] at member
  simpa using (List.mem_range'_1.mp member).2

theorem Numbered.lookup_length (numbered : gateway.Numbered) :
    gateway.sessions.lookup gateway.sessions.length = none := by
  cases known : gateway.sessions.lookup gateway.sessions.length with
  | none => rfl
  | some session => exact (Nat.lt_irrefl _ (numbered.lt_of_lookup known)).elim

theorem Numbered.accept (numbered : gateway.Numbered) {number : Nat}
    (known : number ≤ gateway.sessions.length) (turn : Turn) :
    (gateway.accept number turn).1.Numbered := by
  have keys := Sorted.keys_put_of_le turn.session numbered (Nat.zero_le number) (by omega)
  have count := congrArg List.length keys
  simp only [List.length_map, List.length_range'] at count
  unfold Numbered
  simp only [Gateway.accept]
  rw [keys, count]

theorem Course.setup_eq (course : Course origin past gateway) : gateway.setup = origin.setup := by
  induction course with
  | nil => rfl
  | @event past before after event effects course kind steps ih =>
    rw [← ih]
    cases event with
    | signal number signal => cases kind
    | elapsed milliseconds =>
      simp only [step, Option.ite_none_right_eq_some, Option.some.injEq] at steps
      obtain ⟨-, same⟩ := steps
      cases same
      rfl
    | _ =>
      cases steps
      rfl
  | move course known move ih => exact ih

/-- A course up to one of the moves on its record. -/
theorem Course.split {later earlier : List Occurrence} {number : Nat} {episode : Episode}
    (course : Course origin (later ++ .move number episode :: earlier) gateway) :
    ∃ before session, Course origin earlier before ∧
      before.sessions.lookup number = some session ∧
      episode.before = session.turn before.shared ∧
      Turn.Move before.setup number episode.before episode.deed episode.after := by
  generalize whole : later ++ .move number episode :: earlier = past at course
  induction course generalizing later with
  | nil => simp at whole
  | event course kind steps ih =>
    cases later with
    | nil => cases whole
    | cons last later =>
      simp only [List.cons_append, List.cons.injEq] at whole
      exact ih whole.2
  | move course known move ih =>
    cases later with
    | nil =>
      cases whole
      exact ⟨_, _, course, known, rfl, move⟩
    | cons last later =>
      simp only [List.cons_append, List.cons.injEq] at whole
      exact ih whole.2

/-- A course can be cut anywhere. -/
theorem Course.cut {later earlier : List Occurrence}
    (course : Course origin (later ++ earlier) gateway) :
    ∃ middle, Course origin earlier middle ∧ Course middle later gateway := by
  generalize whole : later ++ earlier = past at course
  induction course generalizing later with
  | nil =>
    obtain ⟨rfl, rfl⟩ := List.append_eq_nil_iff.mp whole
    exact ⟨origin, .nil, .nil⟩
  | event course kind steps ih =>
    cases later with
    | nil =>
      subst whole
      exact ⟨_, .event course kind steps, .nil⟩
    | cons last later =>
      simp only [List.cons_append, List.cons.injEq] at whole
      obtain ⟨rfl, rest⟩ := whole
      obtain ⟨middle, first, second⟩ := ih rest
      exact ⟨middle, first, .event second kind steps⟩
  | move course known move ih =>
    cases later with
    | nil =>
      subst whole
      exact ⟨_, .move course known move, .nil⟩
    | cons last later =>
      simp only [List.cons_append, List.cons.injEq] at whole
      obtain ⟨rfl, rest⟩ := whole
      obtain ⟨middle, first, second⟩ := ih rest
      exact ⟨middle, first, .move second known move⟩

theorem Course.append {middle : Gateway} {later : List Occurrence}
    (first : Course origin past middle) (second : Course middle later gateway) :
    Course origin (later ++ past) gateway := by
  induction second with
  | nil => exact first
  | event _ kind steps ih => exact .event ih kind steps
  | move _ known move ih => exact .move ih known move

theorem start_calls (setup : Setup) (shared : Shared) (name : String) (peer : Net.SocketAddress)
    (port : Nat) : (Session.start setup shared name peer port).calls = [] := by
  unfold Session.start
  dsimp only
  split
  · split
    · rfl
    · rw [Turn.finish_calls]
      rfl
  · split
    · rfl
    · rw [Turn.finish_calls, Turn.count_calls]
      rfl

/-- Whoever is called is called in a move of a session. -/
theorem Course.called (course : Course origin past gateway) {occurrence : Occurrence}
    (member : occurrence ∈ past) {number : Nat} {effect : Effect}
    (done : (number, effect) ∈ occurrence.effects) (call : effect.isCall = true) :
    ∃ episode, occurrence = .move number episode ∧ effect ∈ episode.after.effects := by
  induction course with
  | nil => cases member
  | @event past before after event effects course kind steps ih =>
    rcases List.mem_cons.mp member with rfl | member
    · exfalso
      cases event with
      | signal number signal => cases kind
      | connected name peer port =>
        cases steps
        obtain ⟨own, early, same⟩ := List.mem_map.mp done
        cases same
        have inCalls := List.mem_filter.mpr ⟨early, call⟩
        change effect ∈ (Session.start _ _ name peer port).calls at inCalls
        rw [start_calls] at inCalls
        cases inCalls
      | elapsed milliseconds =>
        simp only [step, Option.ite_none_right_eq_some, Option.some.injEq] at steps
        obtain ⟨-, same⟩ := steps
        cases same
        cases done
      | _ =>
        cases steps
        cases done
    · exact ih member
  | move course known move ih =>
    rcases List.mem_cons.mp member with rfl | member
    · obtain ⟨own, early, same⟩ := List.mem_map.mp done
      cases same
      exact ⟨_, rfl, early⟩
    · exact ih member

/-! Runs on fixed inputs. -/

/-- What a gateway does when events happen to it, if all of them can. -/
def perform? (gateway : Gateway) : List Event → Option (Gateway × List (Nat × Effect))
  | [] => some (gateway, [])
  | event :: rest =>
    (gateway.step event).bind fun (next, effects) =>
      (next.perform? rest).map fun (last, others) => (last, effects ++ others)

theorem Run.perform? {events rest : List Event} {effects others : List (Nat × Effect)}
    {last : Gateway} (run : Run origin events gateway effects)
    (performs : gateway.perform? rest = some (last, others)) :
    Run origin (events ++ rest) last (effects ++ others) := by
  induction rest generalizing events gateway effects others with
  | nil =>
    cases performs
    simpa using run
  | cons event rest ih =>
    obtain ⟨⟨next, first⟩, steps, onward⟩ := Option.bind_eq_some_iff.mp performs
    obtain ⟨⟨final, later⟩, performsOn, same⟩ := Option.map_eq_some_iff.mp onward
    cases same
    have further := ih (run.more steps) performsOn
    simpa using further

/-- A course for what a gateway does, with everything that it does somewhere on record. -/
theorem course_of_perform? {events : List Event} {effects : List (Nat × Effect)}
    (performs : origin.perform? events = some (gateway, effects)) :
    ∃ past, Course origin past gateway ∧
      ∀ effect, effect ∈ effects ↔ ∃ occurrence ∈ past, effect ∈ occurrence.effects := by
  obtain ⟨past, course, rfl⟩ := (Run.perform? .none performs).course
  refine ⟨past, course, ?_⟩
  intro effect
  simp

end Gateway

end SelfCheck
