import ZeroFeed.Relay.Isolation

/-!
# A publisher and a subscriber find each other

Each side first enters itself into the session and looks for the other one
afterwards, in a section of its own.  Whichever of the two enters last finds the
other, so the subscriber's initial frame reaches the publisher.  The invariant
names every stage in which that frame is still on its way.
-/

namespace ZeroFeed.Rendezvous

open ZeroFeed.Messages
open ZeroFeed.Session
open ZeroFeed.Handlers
open ZeroFeed.Isolation
open ZeroFeed.Transition

/-- The publisher a handler is about to write to. -/
def sendTarget (conn : ℕ) : Handler → Option ℕ
  | .greeting _ _ => some conn
  | .announce _ _ publisher | .sendTo _ _ publisher | .syncSend _ publisher => some publisher
  | _ => none

/-- The step is not a send to the publisher that fails. -/
def sendsSucceed (publisher : ℕ) (state : State) : Label → Bool
  | .handler conn (.send written) =>
      decide (sendTarget conn (state.handlers conn) ≠ some publisher) ||
        (written && !state.server.netClosed publisher)
  | _ => true

/-- The handler has reached its read loop. -/
def reachedLoop : Handler → Bool
  | .loopPublisher _ | .forward .. | .forwarding .. | .loopSubscriber _ | .forwardTo ..
  | .sendTo .. | .leave _ | .hangUp _ | .testEmpty _ | .remove .. | .removing .. => true
  | _ => false

/-- The initial frame of the subscriber was written to the publisher. -/
def Announced (srv : Server) (publisher subscriber : ℕ) : Prop :=
  ∃ client own, srv.clients publisher = some client ∧ srv.clients subscriber = some own ∧
    ⟨subscriber, own.initialEnv⟩ ∈ client.sent

/-- The initial frame of the subscriber was written or is on its way. -/
def Pending (state : State) (session publisher subscriber : ℕ) : Prop :=
  state.handlers publisher = .greet session ∨
  (∃ rest, state.handlers publisher = .greeting session rest ∧ subscriber ∈ rest) ∨
  (∃ env, state.handlers subscriber = .findPublisher env session) ∨
  ∃ env, state.handlers subscriber = .announce env session publisher

theorem announced_of_grows {srv srv' : Server} (hgrows : Grows srv srv')
    {publisher subscriber : ℕ} (hannounced : Announced srv publisher subscriber) :
    Announced srv' publisher subscriber := by
  obtain ⟨client, own, hclient, hown, hsent⟩ := hannounced
  obtain ⟨client', hclient', hkept⟩ := hgrows.clients publisher client hclient
  obtain ⟨own', hown', hsame⟩ := hgrows.clients subscriber own hown
  exact ⟨client', own', hclient', hown', hsame.initialEnv ▸ hkept.sent.subset hsent⟩

theorem announced_of_sendFrame {srv : Server} {publisher subscriber : ℕ} {own : ClientConn}
    (hregistered : ∃ client, srv.clients publisher = some client)
    (hown : srv.clients subscriber = some own) (hopen : srv.netClosed publisher = false) :
    Announced (srv.sendFrame publisher ⟨subscriber, own.initialEnv⟩ true) publisher
      subscriber := by
  obtain ⟨client, hclient⟩ := hregistered
  have hsend : srv.sendFrame publisher ⟨subscriber, own.initialEnv⟩ true =
      srv.setClient publisher (client.accept ⟨subscriber, own.initialEnv⟩) := by
    simp [Server.sendFrame, hclient, hopen]
  rw [hsend]
  have hsent : ⟨subscriber, own.initialEnv⟩ ∈
      (client.accept ⟨subscriber, own.initialEnv⟩).sent := by
    simp [ClientConn.accept]
  by_cases hsame : subscriber = publisher
  · subst hsame
    obtain rfl := Option.some.inj (hclient.symm.trans hown)
    exact ⟨_, _, Function.update_self _ _ _, Function.update_self _ _ _, hsent⟩
  · exact ⟨_, own, Function.update_self _ _ _, by simpa [hsame] using hown,
      hsent⟩

section Step

variable {srv srv' : Server} {conn session publisher subscriber : ℕ} {handler' : Handler}

/-- A step that enters the publisher or the subscriber puts it at the point
where it looks for the other side. -/
theorem entered_of_outcome (houtcome : Outcome srv conn srv' handler')
    (hpublisher : (srv'.objects session).publisher = some publisher)
    (hsubscriber : subscriber ∈ (srv'.objects session).subscribers) :
    ((srv.objects session).publisher = some publisher ∧
      subscriber ∈ (srv.objects session).subscribers) ∨
    (publisher = conn ∧ handler' = .greet session) ∨
    (subscriber = conn ∧ ∃ env, handler' = .findPublisher env session) := by
  cases houtcome with
  | evolves hevolves =>
      exact .inl ⟨(hevolves.objects session).publisher _ hpublisher,
        (hevolves.objects session).subscribers hsubscriber⟩
  | creates role env hfirst htype =>
      by_cases hnew : session = srv.created
      · subst hnew
        simp [Server.createSession, RelaySession.new] at hpublisher
      · simp only [Server.createSession, Function.update_of_ne hnew] at hpublisher hsubscriber
        exact .inl ⟨hpublisher, hsubscriber⟩
  | registers role env target object joinedAt hfresh hfirst htype hcarries hid hentering
      hjoining =>
      by_cases hsame : session = target
      · subst hsame
        simp only [Server.setClient_objects, Server.setObject_objects,
          Function.update_self] at hpublisher hsubscriber
        rcases hentering publisher hpublisher with hold | ⟨rfl, rfl⟩
        · rcases hjoining subscriber hsubscriber with hpresent | ⟨rfl, rfl⟩
          · exact .inl ⟨hold, hpresent⟩
          · exact .inr (.inr ⟨rfl, env, rfl⟩)
        · exact .inr (.inl ⟨rfl, rfl⟩)
      · simp only [Server.setClient_objects, Server.setObject_objects,
          Function.update_of_ne hsame] at hpublisher hsubscriber
        exact .inl ⟨hpublisher, hsubscriber⟩

variable {state state' : State} {input : Input}

/-- While both sides stay entered, a step keeps the frame on its way or writes
it. -/
theorem pending_of_section (hvalid : WellFormed state)
    (hguard : sendsSucceed publisher state (.handler conn input) = true)
    (hsection : Section conn state.server input (state.handlers conn) state'.server handler')
    (hhandlers : state'.handlers = Function.update state.handlers conn handler')
    (hpublisher : (state.server.objects session).publisher = some publisher)
    (hsubscriber : subscriber ∈ (state.server.objects session).subscribers)
    (hpending : Pending state session publisher subscriber) :
    Announced state'.server publisher subscriber ∨
      Pending state' session publisher subscriber := by
  have hother : ∀ other, other ≠ conn → state'.handlers other = state.handlers other := by
    intro other hne
    rw [hhandlers, Function.update_of_ne hne]
  have hself : state'.handlers conn = handler' := by
    rw [hhandlers, Function.update_self]
  have hhandler := hvalid.handlers conn
  rcases hpending with hgreet | ⟨rest, hgreeting, hrest⟩ | ⟨env, hfind⟩ | ⟨env, hannounce⟩
  · by_cases hconn : publisher = conn
    · subst hconn
      rw [hgreet] at hsection
      generalize state'.server = srv' at hsection
      cases hsection with
      | greet _ conns hperm =>
          exact .inr (.inr (.inl ⟨conns, hself, hperm.mem_iff.mpr hsubscriber⟩))
    · exact .inr (.inl ((hother _ hconn).trans hgreet))
  · by_cases hconn : publisher = conn
    · subst hconn
      rw [hgreeting] at hsection hhandler
      generalize hserver : state'.server = srv' at hsection
      cases hsection with
      | greetDone => cases hrest
      | greetSend _ head rest client written hinput hclient =>
          rcases List.mem_cons.mp hrest with rfl | hrest
          · obtain ⟨rfl, hopen⟩ : written = true ∧ state.server.netClosed publisher = false := by
              simpa [sendsSucceed, hinput, hgreeting, sendTarget] using hguard
            obtain ⟨own, hown, -⟩ := hhandler.1
            exact .inl (announced_of_sendFrame ⟨own, hown⟩ hclient hopen)
          · exact .inr (.inr (.inl ⟨rest, hself, hrest⟩))
    · exact .inr (.inr (.inl ⟨rest, (hother _ hconn).trans hgreeting, hrest⟩))
  · by_cases hconn : subscriber = conn
    · subst hconn
      rw [hfind] at hsection
      generalize state'.server = srv' at hsection
      cases hsection with
      | findNone _ _ hnone =>
          rw [hnone] at hpublisher
          cases hpublisher
      | findSome _ _ found hfound =>
          obtain rfl := Option.some.inj (hfound.symm.trans hpublisher)
          exact .inr (.inr (.inr (.inr ⟨env, hself⟩)))
    · exact .inr (.inr (.inr (.inl ⟨env, (hother _ hconn).trans hfind⟩)))
  · by_cases hconn : subscriber = conn
    · subst hconn
      rw [hannounce] at hsection hhandler
      generalize hserver : state'.server = srv' at hsection
      cases hsection with
      | announce _ _ _ written hinput =>
          obtain ⟨rfl, hopen⟩ : written = true ∧ state.server.netClosed publisher = false := by
            simpa [sendsSucceed, hinput, hannounce, sendTarget] using hguard
          obtain ⟨⟨⟨own, hown, -⟩, hfirst⟩, ⟨client, hclient, -⟩⟩ := hhandler
          have henv : env = own.initialEnv := Option.some.inj
            (hfirst.symm.trans (hvalid.server.clients subscriber own hown).first)
          rw [henv]
          exact .inl (announced_of_sendFrame ⟨client, hclient⟩ hown hopen)
    · exact .inr (.inr (.inr (.inr ⟨env, (hother _ hconn).trans hannounce⟩)))

/-- The invariant of runs in which sends to the publisher succeed. -/
def Meeting (publisher : ℕ) (state : State) : Prop :=
  ∀ session subscriber, (state.server.objects session).publisher = some publisher →
    subscriber ∈ (state.server.objects session).subscribers →
      Announced state.server publisher subscriber ∨ Pending state session publisher subscriber

theorem meeting_step {label : Label} (hvalid : WellFormed state)
    (hmeeting : Meeting publisher state) (hguard : sendsSucceed publisher state label = true)
    (hstep : state.step label = some state') : Meeting publisher state' := by
  intro session subscriber hpublisher hsubscriber
  rcases cases_of_step hstep with
    ⟨conn, input, handler', rfl, hsection, hhandlers⟩ | ⟨task, -, hbackground, hhandlers⟩
  · have houtcome := outcome_of_section hvalid.server (hvalid.handlers conn) hsection
    rcases entered_of_outcome houtcome hpublisher hsubscriber with
      ⟨hbefore, hbefore'⟩ | ⟨rfl, rfl⟩ | ⟨rfl, env, rfl⟩
    · rcases hmeeting session subscriber hbefore hbefore' with hannounced | hpending
      · exact .inl (announced_of_grows houtcome.grows hannounced)
      · exact pending_of_section hvalid hguard hsection hhandlers hbefore hbefore' hpending
    · exact .inr (.inl (by rw [hhandlers, Function.update_self]))
    · exact .inr (.inr (.inr (.inl ⟨env, by rw [hhandlers, Function.update_self]⟩)))
  · have hevolves := evolves_of_background hbackground
    rcases hmeeting session subscriber ((hevolves.objects session).publisher _ hpublisher)
      ((hevolves.objects session).subscribers hsubscriber) with hannounced | hpending
    · exact .inl (announced_of_grows hevolves.grows hannounced)
    · rw [Pending, ← hhandlers] at hpending
      exact .inr hpending

end Step

/-- By the time both handlers are in their read loops, the initial frame of the
subscriber was written to the publisher, provided that sends to it succeed and
both are still entered. -/
theorem no_missed_rendezvous (publisher subscriber session : ℕ) (state : State)
    (hreaches : GuardedReaches State.step
      (fun state label => sendsSucceed publisher state label = true) State.start state)
    (hpublisher : (state.server.objects session).publisher = some publisher)
    (hsubscriber : subscriber ∈ (state.server.objects session).subscribers)
    (hpublisherLoop : reachedLoop (state.handlers publisher) = true)
    (hsubscriberLoop : reachedLoop (state.handlers subscriber) = true) :
    ∃ client own, state.server.clients publisher = some client ∧
      state.server.clients subscriber = some own ∧
      ⟨subscriber, own.initialEnv⟩ ∈ client.sent := by
  have hmeeting : Meeting publisher state := by
    refine GuardedReaches.invariant (fun _ hbefore => wellFormed_of_reaches hbefore.reaches)
      ?_ (fun _ _ _ => meeting_step) hreaches
    intro session subscriber hpublisher
    cases hpublisher
  rcases hmeeting session subscriber hpublisher hsubscriber with hannounced | hpending
  · exact hannounced
  · rcases hpending with hgreet | ⟨rest, hgreeting, -⟩ | ⟨env, hfind⟩ | ⟨env, hannounce⟩
    · rw [hgreet] at hpublisherLoop
      cases hpublisherLoop
    · rw [hgreeting] at hpublisherLoop
      cases hpublisherLoop
    · rw [hfind] at hsubscriberLoop
      cases hsubscriberLoop
    · rw [hannounce] at hsubscriberLoop
      cases hsubscriberLoop

/-- A subscriber enters first and looks in vain, then the publisher enters. -/
def subscriberFirst : List Label :=
  arrive 0 .subscriber ++ [.handler 0 .proceed, .handler 0 .proceed] ++
    arrive 1 .publisher ++ [.handler 1 .proceed, .handler 1 (.order [0]),
      .handler 1 (.send true), .handler 1 .proceed]

theorem no_missed_rendezvous_subscriberFirst :
    ∃ state : State, (state.server.objects 0).publisher = some 1 ∧
      (state.server.objects 0).subscribers = [0] ∧
      state.handlers 0 = .loopSubscriber 0 ∧ state.handlers 1 = .loopPublisher 0 ∧
      ∃ client own, state.server.clients 1 = some client ∧
        state.server.clients 0 = some own ∧ ⟨0, own.initialEnv⟩ ∈ client.sent := by
  obtain ⟨state, hreaches, hend⟩ := exists_guardedReaches_of_run State.step (sendsSucceed 1)
    State.start subscriberFirst
    (fun state => (state.server.objects 0).publisher = some 1 ∧
      (state.server.objects 0).subscribers = [0] ∧
      state.handlers 0 = .loopSubscriber 0 ∧ state.handlers 1 = .loopPublisher 0)
    (by decide +kernel)
  obtain ⟨hpublisher, hsubscribers, hfirst, hsecond⟩ := of_decide_eq_true hend
  exact ⟨state, hpublisher, hsubscribers, hfirst, hsecond,
    no_missed_rendezvous 1 0 0 state hreaches hpublisher (by simp [hsubscribers])
      (by rw [hsecond, reachedLoop]) (by rw [hfirst, reachedLoop])⟩

end ZeroFeed.Rendezvous
