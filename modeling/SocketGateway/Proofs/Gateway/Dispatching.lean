import SocketGateway.Proofs.Gateway.Usage
import SocketGateway.Proofs.Signaling.Handlers

/-!
Contract: who answers an event, whatever was done with the gateway before.

Owns:
- that the handler supplied last counts, and that nothing but an adaptor supplies one;
- that an event is answered by this handler as the client that is on the connection, and what
  becomes of events that cannot be answered;
- that dispatching leaves the gateway as it is.

The world is arbitrary, so it may record which handlers are called, with what, and how often. An
adaptor that changes what it supplies while it is taken over counts as several.

Does not own: what handlers do.
-/

namespace SocketGateway

variable {World : Type}

/-- It takes over an adaptor that supplies this handler for the event. -/
def Usage.Supplies (event : String) (handler : Handler World) : Usage World → Prop
  | .call (.setAdapter adaptor) => adaptor.Supplies event handler
  | _ => False

/-- The last handler that was supplied for the event. -/
def Usage.Supplied (usages : List (Usage World)) (event : String) (handler : Handler World) :
    Prop :=
  ∃ earlier, Since (fun _ usage => usage.Supplies event handler)
    (fun usage => ∃ other, usage.Supplies event other) usages earlier

private theorem Usage.exists_supplies {usage : Usage World} {event : String} :
    (∃ handler, usage.Supplies event handler) ↔
      ∃ adaptor, .call (.setAdapter adaptor) = usage ∧
        ∃ handler, adaptor.Supplies event handler := by
  cases usage with
  | call call => cases call <;> simp [Supplies]
  | register | deregister | idle | leaveIdle | setOption | rearrange | pass => simp [Supplies]

/-- A handler was supplied last if any was supplied at all. -/
theorem Usage.exists_supplied {usages : List (Usage World)} {event : String} :
    (∃ handler, Supplied usages event handler) ↔
      ∃ adaptor, .call (.setAdapter adaptor) ∈ usages ∧
        ∃ handler, adaptor.Supplies event handler := by
  induction usages using List.reverseRecOn with
  | nil => simp [Supplied, not_since_nil]
  | append_singleton usages usage inductionHypothesis =>
    unfold Supplied at inductionHypothesis ⊢
    simp only [exists_since_concat, exists_or, exists_and_right, inductionHypothesis,
      List.mem_append, List.mem_singleton, or_and_right, ← exists_supplies]
    by_cases now : ∃ handler, usage.Supplies event handler <;> simp [now]

/-- Events are answered by the handlers that are given for them, each as the client that is on the
connection. -/
structure Gateway.DispatchesBy (gateway : Gateway World)
    (supplied : String → Handler World → Prop) : Prop where
  identity : ∀ key id, gateway.clients.lookup key = some id ↔ gateway.clients.IsOn id key
  unknown : ∀ connection event data world,
    (∃ name, (gateway.dispatch connection event data world).1 = .error (.unknownEvent name)) ↔
      ∀ handler, ¬ supplied event handler
  unregistered : ∀ connection event data world,
    (∃ name, (gateway.dispatch connection event data world).1 = .error (.unregistered name)) ↔
      (∃ handler, supplied event handler) ∧ ∀ id, ¬ gateway.clients.IsOn id connection.id
  handled : ∀ connection event data world handler id, supplied event handler →
    gateway.clients.lookup connection.id = some id →
      gateway.dispatch connection event data world =
        (.ok (handler connection id data world).1, (handler connection id data world).2)
  /-- Where no handler answers, none is called. -/
  failed : ∀ connection event data world cause,
    (gateway.dispatch connection event data world).1 = .error cause →
      (cause = .unknownEvent event ∨ cause = .unregistered connection.id.text) ∧
        (gateway.dispatch connection event data world).2 = world
  sorted : gateway.signaling.events.Pairwise (· < ·)
  listed : ∀ connection event data world, event ∈ gateway.signaling.events ↔
    ¬ ∃ name, (gateway.dispatch connection event data world).1 = .error (.unknownEvent name)

namespace Gateway

private theorem dispatchesBy_of_handlers {gateway : Gateway World}
    {supplied : String → Handler World → Prop} (consistent : gateway.clients.Consistent)
    (table : ∀ event handler,
      gateway.signaling.handlers[event]? = some handler ↔ supplied event handler) :
    gateway.DispatchesBy supplied := by
  have unknown : ∀ connection event data world,
      (∃ name, (gateway.dispatch connection event data world).1 = .error (.unknownEvent name)) ↔
        gateway.signaling.handlers[event]? = none := by
    intro connection event data world
    unfold dispatch
    rcases gateway.signaling.dispatch_cases gateway.clients connection event data world with
      ⟨unknown, fails⟩ | ⟨handler, known, ⟨-, fails⟩ | ⟨id, -, runs⟩⟩
    · simp [unknown, fails]
    · simp [known, fails]
    · simp [known, runs]
  have unbound : ∀ key,
      gateway.clients.lookup key = none ↔ ∀ id, ¬ gateway.clients.IsOn id key := by
    intro key
    simp only [← consistent.owned, Option.eq_none_iff_forall_ne_some, ClientRegistry.lookup, Ne]
  exact {
    identity := fun key id => consistent.owned
    unknown := by
      intro connection event data world
      rw [unknown, Option.eq_none_iff_forall_ne_some]
      simp only [Ne, table]
    unregistered := by
      intro connection event data world
      simp only [← table, ← unbound, dispatch]
      rcases gateway.signaling.dispatch_cases gateway.clients connection event data world with
        ⟨unknown, fails⟩ | ⟨handler, known, ⟨absent, fails⟩ | ⟨id, present, runs⟩⟩
      · simp [unknown, fails]
      · simp [known, fails, absent]
      · simp [runs, present]
    handled := by
      intro connection event data world handler id supplies bound
      exact Signaling.dispatch_bound ((table event handler).mpr supplies) bound data world
    failed := by
      intro connection event data world cause failure
      unfold dispatch at failure ⊢
      rcases gateway.signaling.dispatch_cases gateway.clients connection event data world with
        ⟨-, fails⟩ | ⟨handler, -, ⟨-, fails⟩ | ⟨id, -, runs⟩⟩
      · rw [fails] at failure ⊢
        cases failure
        exact ⟨Or.inl rfl, rfl⟩
      · rw [fails] at failure ⊢
        cases failure
        exact ⟨Or.inr rfl, rfl⟩
      · rw [runs] at failure
        cases failure
    sorted := gateway.signaling.sorted_events
    listed := by
      intro connection event data world
      rw [unknown, Signaling.mem_events, ← Option.isSome_iff_exists, Option.isSome_iff_ne_none] }

end Gateway

namespace Deployment

variable {deployment : Deployment World} {usages : List (Usage World)} {event : String}
  {handler : Handler World}

/-- Only adaptors change the table. -/
theorem signaling_use (deployment : Deployment World) (service : Service World)
    (usage : Usage World) :
    (deployment.use service usage).gateway.signaling =
      match usage with
      | .call (.setAdapter adaptor) => service.gateway.signaling.setAdapter adaptor
      | _ => service.gateway.signaling := by
  cases usage with
  | call call =>
    cases call with
    | authenticate request now =>
      rw [use]
      rcases deployment.perform_authenticate service request now with
        ⟨cause, -, same, -⟩ | ⟨bind, -, -, stashed, -⟩
      · rw [same]
      · rw [stashed]
    | connect token connection now =>
      rw [use, perform]
      rcases service.gateway.connect_outcome deployment.transport token connection now
        service.world with ⟨bind, -, -, left⟩ | ⟨-, left⟩
      · rw [left]
      · rw [left]
    | disconnect connection =>
      rw [use, perform]
      rcases service.gateway.disconnect_outcome deployment.transport connection service.world with
        ⟨id, option, -, left⟩ | ⟨-, left⟩
      · rw [left]
      · rw [left]
    | dispatch | signal | setHooks | setAdapter => rfl
  | register | deregister | idle | leaveIdle | setOption | rearrange | pass => rfl

private theorem handlers_use (service : Service World) (usage : Usage World) :
    (deployment.use service usage).gateway.signaling.handlers[event]? = some handler ↔
      usage.Supplies event handler ∨
        (service.gateway.signaling.handlers[event]? = some handler ∧
          ¬ ∃ other, usage.Supplies event other) := by
  rw [signaling_use]
  cases usage with
  | call call =>
    cases call with
    | setAdapter adaptor =>
      rw [not_exists]
      exact Signaling.handlers_setAdapter_eq_some
    | authenticate | connect | disconnect | dispatch | signal | setHooks => simp [Usage.Supplies]
  | register | deregister | idle | leaveIdle | setOption | rearrange | pass =>
    simp [Usage.Supplies]

theorem handlers_used :
    (deployment.used usages).gateway.signaling.handlers[event]? = some handler ↔
      Usage.Supplied usages event handler := by
  induction usages using List.reverseRecOn with
  | nil => simp [used, start, Gateway.new, Usage.Supplied, not_since_nil]
  | append_singleton usages usage inductionHypothesis =>
    unfold Usage.Supplied at inductionHypothesis ⊢
    rw [used_concat, handlers_use, inductionHypothesis, exists_since_concat]

/-- Whatever was done with a gateway, an event is answered by the handler that was supplied for it
last, as the client that is on the connection at that moment. -/
theorem used_dispatches (deployment : Deployment World) (usages : List (Usage World)) :
    (deployment.used usages).gateway.DispatchesBy (Usage.Supplied usages) ∧
      (∀ event, (∃ handler, Usage.Supplied usages event handler) ↔
        ∃ adaptor, .call (.setAdapter adaptor) ∈ usages ∧
          ∃ handler, adaptor.Supplies event handler) ∧
      ∀ connection event data,
        (deployment.used (usages ++ [.call (.dispatch connection event data)])).gateway =
          (deployment.used usages).gateway := by
  refine ⟨?_, ?_, ?_⟩
  · exact Gateway.dispatchesBy_of_handlers (consistent_used deployment usages)
      fun event handler => handlers_used
  · exact fun event => Usage.exists_supplied
  · intro connection event data
    rw [used_concat]
    rfl

/-- Answers with the id of the client. -/
def whoami : Handler Recording := fun _ id _ world => (id.text, world)

/-- A handler is supplied, its event is listed once more without one, and a client moves from one
connection to another. -/
def moving : List (Usage Recording) :=
  [.call (.setAdapter { events := ["whoami", "whoami"], handler? := fun _ => some whoami }),
    .call (.setAdapter { events := ["whoami", "echo"], handler? := fun _ => none }),
    .register ⟨"u1"⟩ ⟨⟨"c1"⟩, "first"⟩ "", .register ⟨"u1"⟩ ⟨⟨"c2"⟩, "second"⟩ ""]

/-- The client is answered on the connection to which it moved, and nobody is on the other one. -/
theorem moving_dispatches :
    let gateway := (rehearsal.used moving).gateway
    gateway.dispatch ⟨⟨"c2"⟩, "second"⟩ "whoami" .null {} = (.ok "u1", {}) ∧
      (∃ name, (gateway.dispatch ⟨⟨"c1"⟩, "first"⟩ "whoami" .null {}).1 =
        .error (.unregistered name)) ∧
      ∃ name, (gateway.dispatch ⟨⟨"c2"⟩, "second"⟩ "echo" .null {}).1 =
        .error (.unknownEvent name) := by
  intro gateway
  obtain ⟨dispatches, exists_iff, -⟩ := used_dispatches rehearsal moving
  have supplied : Usage.Supplied moving "whoami" whoami := by
    refine ⟨[], _, _, rfl, ⟨by simp, rfl⟩, ?_⟩
    simp [Usage.Supplies, Adaptor.Supplies]
  have nobody : ¬ ∃ handler, Usage.Supplied moving "echo" handler := by
    rw [exists_iff]
    simp [moving, Adaptor.Supplies]
  refine ⟨?_, ?_, ?_⟩
  · have current : gateway.clients.lookup ⟨"c2"⟩ = some ⟨"u1"⟩ := by decide +kernel
    exact dispatches.handled _ _ _ _ _ _ supplied current
  · have left : ∀ id, ¬ gateway.clients.IsOn id ⟨"c1"⟩ := by
      intro id
      rw [← dispatches.identity]
      have gone : gateway.clients.lookup ⟨"c1"⟩ = none := by decide +kernel
      rw [gone]
      exact nofun
    exact (dispatches.unregistered _ _ _ _).mpr ⟨⟨whoami, supplied⟩, left⟩
  · exact (dispatches.unknown _ _ _ _).mpr (not_exists.mp nobody)

end Deployment

end SocketGateway
