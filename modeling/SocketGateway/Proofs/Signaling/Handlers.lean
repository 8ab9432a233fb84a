import Mathlib.Data.List.Induction
import SocketGateway.Signaling

/-!
Contract: the table of handlers, and what dispatching by it comes to.

Owns:
- which handlers an adaptor supplies, and what taking them over leaves in the table;
- the events of a table, in order;
- the three ways in which dispatching an event goes.

Does not own: which adaptors are taken over.
-/

namespace SocketGateway

variable {World : Type}

/-- The adaptor lists the event, and has this handler for it. -/
def Adaptor.Supplies (adaptor : Adaptor World) (event : String) (handler : Handler World) : Prop :=
  event ∈ adaptor.events ∧ adaptor.handler? event = some handler

namespace Signaling

variable {signaling : Signaling World} {adaptor : Adaptor World} {event : String}
  {handler : Handler World}

/-! ### The table -/

private theorem handlers_addEvent (adaptor : Adaptor World) (signaling : Signaling World)
    (listed event : String) :
    (addEvent adaptor signaling listed).handlers[event]? =
      if listed = event then (adaptor.handler? event).or signaling.handlers[event]?
      else signaling.handlers[event]? := by
  unfold addEvent
  cases supplied : adaptor.handler? listed with
  | none =>
    by_cases same : listed = event
    · rw [if_pos same, ← same, supplied, Option.none_or]
    · rw [if_neg same]
  | some handler =>
    dsimp only
    rw [Std.TreeMap.getElem?_insert]
    by_cases same : listed = event
    · simp [← same, supplied]
    · simp [same]

/-- An event keeps its handler unless the adaptor lists it and has one. -/
theorem handlers_setAdapter (signaling : Signaling World) (adaptor : Adaptor World)
    (event : String) :
    (signaling.setAdapter adaptor).handlers[event]? =
      if event ∈ adaptor.events then (adaptor.handler? event).or signaling.handlers[event]?
      else signaling.handlers[event]? := by
  rw [setAdapter]
  induction adaptor.events using List.reverseRecOn with
  | nil => simp
  | append_singleton events listed inductionHypothesis =>
    rw [List.foldl_append, List.foldl_cons, List.foldl_nil, handlers_addEvent, inductionHypothesis]
    -- an event that is listed again gets the same handler again
    by_cases before : event ∈ events
    · cases adaptor.handler? event <;> simp [before]
    · by_cases same : listed = event
      · simp [before, same]
      · simp [before, same, Ne.symm same]

theorem handlers_setAdapter_eq_some :
    (signaling.setAdapter adaptor).handlers[event]? = some handler ↔
      adaptor.Supplies event handler ∨
        (signaling.handlers[event]? = some handler ∧ ∀ other, ¬ adaptor.Supplies event other) := by
  unfold Adaptor.Supplies
  rw [handlers_setAdapter]
  by_cases listed : event ∈ adaptor.events
  · cases supplied : adaptor.handler? event <;> simp [listed]
  · simp [listed]

theorem mem_events :
    event ∈ signaling.events ↔ ∃ handler, signaling.handlers[event]? = some handler := by
  rw [events, Std.TreeMap.mem_keys, Std.TreeMap.mem_iff_isSome_getElem?, Option.isSome_iff_exists]

theorem sorted_events (signaling : Signaling World) : signaling.events.Pairwise (· < ·) := by
  refine Std.TreeMap.ordered_keys.imp ?_
  intro left right before
  exact compareOfLessAndEq_eq_lt.mp before

/-! ### Dispatching -/

/-- How dispatching goes is decided by the table and by the client on the connection. -/
theorem dispatch_cases (signaling : Signaling World) (registry : ClientRegistry)
    (connection : Connection) (event : String) (data : Json) (world : World) :
    (signaling.handlers[event]? = none ∧
      signaling.dispatch registry connection event data world =
        (.error (.unknownEvent event), world)) ∨
    ∃ handler, signaling.handlers[event]? = some handler ∧
      ((registry.lookup connection.id = none ∧
          signaling.dispatch registry connection event data world =
            (.error (.unregistered connection.id.text), world)) ∨
        ∃ id, registry.lookup connection.id = some id ∧
          signaling.dispatch registry connection event data world =
            (.ok (handler connection id data world).1, (handler connection id data world).2)) := by
  unfold dispatch route
  cases signaling.handlers[event]? with
  | none => exact Or.inl ⟨rfl, rfl⟩
  | some handler =>
    refine Or.inr ⟨handler, rfl, ?_⟩
    cases registry.lookup connection.id with
    | none => exact Or.inl ⟨rfl, rfl⟩
    | some id => exact Or.inr ⟨id, rfl, rfl⟩

theorem dispatch_bound {registry : ClientRegistry} {connection : Connection} {id : ClientId}
    (known : signaling.handlers[event]? = some handler)
    (bound : registry.lookup connection.id = some id) (data : Json) (world : World) :
    signaling.dispatch registry connection event data world =
      (.ok (handler connection id data world).1, (handler connection id data world).2) := by
  simp only [dispatch, route, known, bound]

end Signaling

end SocketGateway
