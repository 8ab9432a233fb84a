import SocketGateway.Gateway
import SocketGateway.Proofs.Expiring.Entries
import SocketGateway.Proofs.Registry.Consistency

/-!
Contract: what the events of a connection make of a gateway.

Owns:
- when an authentication lets a handshake in, and as whom;
- what authentication, connect and disconnect events leave of the registry and of the pending
  binds, for every transport and all hooks.

Does not own: what becomes of the world, or runs of several events.
-/

namespace SocketGateway

/-! ### Authentication -/

namespace Authentication

private theorem clientId_eq_ok {text : String} {id : ClientId} (named : clientId text = .ok id) :
    Text.isBlank id.text = false ∧ id.text = text := by
  unfold clientId at named
  split at named
  · next made =>
    cases named
    obtain ⟨notBlank, sameText⟩ := ClientId.ofText_eq_ok_iff.mp made
    exact ⟨by rw [sameText, notBlank], sameText⟩
  · cases named

/-- A hook's answer is taken as it is; only a required option must not be empty. -/
theorem bindOfAnswer_eq_ok {optionRequired : Bool} {answer : Except String (String × String)}
    {bind : PendingBind} (accepted : bindOfAnswer optionRequired answer = .ok bind) :
    Text.isBlank bind.client.text = false ∧ answer = .ok (bind.client.text, bind.option) ∧
      (optionRequired = true → bind.option ≠ "") := by
  cases answer with
  | error reason => cases accepted
  | ok decided =>
    obtain ⟨text, option⟩ := decided
    simp only [bindOfAnswer] at accepted
    split at accepted
    · cases accepted
    · next id named =>
      obtain ⟨notBlank, sameText⟩ := clientId_eq_ok named
      split at accepted
      · cases accepted
      · next permitted =>
        cases accepted
        refine ⟨notBlank, by rw [sameText], ?_⟩
        intro required (isEmpty : option = "")
        exact permitted (by simp [required, isEmpty])

theorem bindOfToken_eq_ok {token : String} {bind : PendingBind}
    (accepted : bindOfToken token = .ok bind) :
    Text.isBlank bind.client.text = false ∧ bind.client.text = token ∧ bind.option = "" := by
  unfold bindOfToken at accepted
  split at accepted
  · cases accepted
  · next id named =>
    cases accepted
    obtain ⟨notBlank, sameText⟩ := clientId_eq_ok named
    exact ⟨notBlank, sameText, rfl⟩

end Authentication

namespace Gateway

variable {World : Type} {gateway : Gateway World} {transport : Transport World}

/-- The gateway's rules let a handshake in as the client and with the option of a bind. -/
structure Decides (gateway : Gateway World) (request : Handshake) (world : World)
    (bind : PendingBind) : Prop where
  notBlank : Text.isBlank bind.client.text = false
  decided : ∃ credential,
    Authentication.extractToken gateway.config.authPrefix request = .ok credential ∧
      match gateway.hooks.authenticate with
      | none => bind.client.text = credential ∧ bind.option = ""
      | some hook =>
        (hook credential world).1 = .ok (bind.client.text, bind.option) ∧
          (gateway.config.optionRequired = true → bind.option ≠ "")

private theorem Decides.of_decide {request : Handshake} {credential : String} {world : World}
    {bind : PendingBind}
    (extracted : Authentication.extractToken gateway.config.authPrefix request = .ok credential)
    (accepted : (gateway.decide credential world).1 = .ok bind) :
    gateway.Decides request world bind := by
  cases installed : gateway.hooks.authenticate with
  | none =>
    simp only [decide, installed] at accepted
    obtain ⟨notBlank, sameText, noOption⟩ := Authentication.bindOfToken_eq_ok accepted
    exact ⟨notBlank, credential, extracted, by rw [installed]; exact ⟨sameText, noOption⟩⟩
  | some hook =>
    simp only [decide, installed] at accepted
    obtain ⟨notBlank, answer, required⟩ := Authentication.bindOfAnswer_eq_ok accepted
    exact ⟨notBlank, credential, extracted, by rw [installed]; exact ⟨answer, required⟩⟩

/-- A decision is determined by the gateway, the handshake and the world. -/
theorem Decides.unique {request : Handshake} {world : World} {bind other : PendingBind}
    (decides : gateway.Decides request world bind)
    (decidesOther : gateway.Decides request world other) : bind = other := by
  obtain ⟨-, credential, extracted, decided⟩ := decides
  obtain ⟨-, otherCredential, otherExtracted, otherDecided⟩ := decidesOther
  obtain rfl : credential = otherCredential :=
    Except.ok.inj (extracted.symm.trans otherExtracted)
  have sameParts : bind.client.text = other.client.text ∧ bind.option = other.option := by
    cases installed : gateway.hooks.authenticate with
    | none =>
      rw [installed] at decided otherDecided
      exact ⟨decided.1.trans otherDecided.1.symm, decided.2.trans otherDecided.2.symm⟩
    | some hook =>
      rw [installed] at decided otherDecided
      exact Prod.mk.inj (Except.ok.inj (decided.1.symm.trans otherDecided.1))
  obtain ⟨⟨text⟩, option⟩ := bind
  obtain ⟨⟨otherText⟩, otherOption⟩ := other
  obtain ⟨rfl, rfl⟩ := sameParts
  rfl

/-- An authentication that fails leaves the gateway as it is. One that succeeds returns the fresh
token, and keeps under it what was decided. -/
theorem authenticate_outcome (gateway : Gateway World) (request : Handshake)
    (fresh : CorrelationToken) (now : Nat) (world : World) :
    (∃ cause, (gateway.authenticate request fresh now world).1 = .error cause ∧
      (gateway.authenticate request fresh now world).2.1 = gateway) ∨
    ∃ bind, gateway.Decides request world bind ∧
      (gateway.authenticate request fresh now world).1 = .ok fresh ∧
      (gateway.authenticate request fresh now world).2.1 =
        { gateway with pending := gateway.pending.stash fresh bind now } := by
  unfold authenticate
  cases extracted : Authentication.extractToken gateway.config.authPrefix request with
  | error cause => exact Or.inl ⟨cause, rfl, rfl⟩
  | ok credential =>
    dsimp only
    cases decision : gateway.decide credential world with
    | mk answer after =>
      cases answer with
      | error cause => exact Or.inl ⟨cause, rfl, rfl⟩
      | ok bind =>
        have accepted : gateway.Decides request world bind := by
          apply Decides.of_decide extracted
          rw [decision]
        exact Or.inr ⟨bind, accepted, rfl, rfl⟩

/-! ### Connect events -/

/-- A connect event is turned away: as a repetition, or because no bind waits for it. -/
def TurnsAway (gateway : Gateway World) (transport : Transport World) (token : CorrelationToken)
    (connection : Connection) (now : Nat) (world : World) : Prop :=
  (gateway.connect transport token connection now world).1 = .error .duplicateCallback ∨
    (gateway.connect transport token connection now world).1 = .error .noPendingBind

private theorem announce_answer (bind : PendingBind) (connection : Connection) (world : World) :
    (gateway.announce transport connection bind world).1 = .ok bind.client ∨
      ∃ reason,
        (gateway.announce transport connection bind world).1 = .error (.rejected reason) := by
  unfold announce
  cases gateway.hooks.connect with
  | none => exact Or.inl rfl
  | some hook =>
    dsimp only
    cases hook bind.client bind.option world with
    | mk answer after =>
      cases answer with
      | ok => exact Or.inl rfl
      | error reason => exact Or.inr ⟨reason, rfl⟩

/-- A connect event for which a bind waits registers its client. -/
theorem connect_admitted {token : CorrelationToken} {now : Nat} {bind : PendingBind}
    (admitted : (gateway.pending.beginConnect token now).1 = .admitted (some bind))
    (transport : Transport World) (connection : Connection) (world : World) :
    ¬ gateway.TurnsAway transport token connection now world ∧
      (gateway.connect transport token connection now world).2.1 =
        { gateway with
          pending := (gateway.pending.beginConnect token now).2
          clients := (gateway.clients.register bind.client connection bind.option
            gateway.clock.now).registry
          clock := gateway.clock.advance } := by
  unfold TurnsAway connect
  cases begun : gateway.pending.beginConnect token now with
  | mk admission pending =>
    rw [begun] at admitted
    dsimp only at admitted
    subst admitted
    dsimp only [register]
    cases
      (gateway.clients.register bind.client connection bind.option gateway.clock.now).result with
    | error cause => exact ⟨by simp, rfl⟩
    | ok =>
      refine ⟨?_, rfl⟩
      dsimp only
      rcases announce_answer bind connection _ with told | ⟨reason, told⟩
      · rw [told]
        simp
      · rw [told]
        simp

/-- Any other connect event is turned away, and nothing but the pending binds changes. -/
theorem connect_turned_away {token : CorrelationToken} {now : Nat}
    (unbound : ∀ bind, (gateway.pending.beginConnect token now).1 ≠ .admitted (some bind))
    (transport : Transport World) (connection : Connection) (world : World) :
    gateway.TurnsAway transport token connection now world ∧
      (gateway.connect transport token connection now world).2.1 =
        { gateway with pending := (gateway.pending.beginConnect token now).2 } := by
  unfold TurnsAway connect
  cases begun : gateway.pending.beginConnect token now with
  | mk admission pending =>
    rw [begun] at unbound
    cases admission with
    | duplicate => exact ⟨Or.inl rfl, rfl⟩
    | admitted bind? =>
      cases bind? with
      | none => exact ⟨Or.inr rfl, rfl⟩
      | some bind => exact absurd rfl (unbound bind)

theorem connect_outcome (gateway : Gateway World) (transport : Transport World)
    (token : CorrelationToken) (connection : Connection) (now : Nat) (world : World) :
    (∃ bind, (gateway.pending.beginConnect token now).1 = .admitted (some bind) ∧
      ¬ gateway.TurnsAway transport token connection now world ∧
      (gateway.connect transport token connection now world).2.1 =
        { gateway with
          pending := (gateway.pending.beginConnect token now).2
          clients := (gateway.clients.register bind.client connection bind.option
            gateway.clock.now).registry
          clock := gateway.clock.advance }) ∨
    (gateway.TurnsAway transport token connection now world ∧
      (gateway.connect transport token connection now world).2.1 =
        { gateway with pending := (gateway.pending.beginConnect token now).2 }) := by
  by_cases waiting : ∃ bind, (gateway.pending.beginConnect token now).1 = .admitted (some bind)
  · obtain ⟨bind, admitted⟩ := waiting
    exact Or.inl ⟨bind, admitted, connect_admitted admitted transport connection world⟩
  · push Not at waiting
    exact Or.inr (connect_turned_away waiting transport connection world)

/-! ### Disconnect events -/

/-- A disconnect event takes the client of its connection out of both registries and tells the hook
of it, or closes a connection that belongs to nobody. -/
theorem disconnect_outcome (gateway : Gateway World) (transport : Transport World)
    (connection : Connection) (world : World) :
    (∃ id option, (gateway.clients.deregister connection).departed = some (id, option) ∧
      gateway.disconnect transport connection world =
        (some (id, option),
          { gateway with
            clients := (gateway.clients.deregister connection).registry
            rooms := gateway.rooms.removeClient id },
          match gateway.hooks.disconnect with
          | none => transport.disconnectAny (gateway.clients.deregister connection).closed world
          | some hook => hook id option
            (transport.disconnectAny (gateway.clients.deregister connection).closed world))) ∨
    ((gateway.clients.deregister connection).departed = none ∧
      gateway.disconnect transport connection world =
        (none, { gateway with clients := (gateway.clients.deregister connection).registry },
          transport.disconnectAny (gateway.clients.deregister connection).closed world)) := by
  unfold disconnect deregister
  dsimp only
  cases (gateway.clients.deregister connection).departed with
  | none => exact Or.inr ⟨rfl, rfl⟩
  | some departed =>
    obtain ⟨id, option⟩ := departed
    refine Or.inl ⟨id, option, rfl, ?_⟩
    cases gateway.hooks.disconnect <;> rfl

theorem disconnect_clients (gateway : Gateway World) (transport : Transport World)
    (connection : Connection) (world : World) :
    (gateway.disconnect transport connection world).2.1.clients =
        (gateway.clients.deregister connection).registry ∧
      (gateway.disconnect transport connection world).2.1.pending = gateway.pending := by
  unfold disconnect deregister
  dsimp only
  cases (gateway.clients.deregister connection).departed with
  | none => exact ⟨rfl, rfl⟩
  | some departed =>
    obtain ⟨id, option⟩ := departed
    cases gateway.hooks.disconnect with
    | none => exact ⟨rfl, rfl⟩
    | some hook => exact ⟨rfl, rfl⟩

end Gateway

end SocketGateway
