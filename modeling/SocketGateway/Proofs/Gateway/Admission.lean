import Std.Data.String.ToNat
import SocketGateway.Proofs.Gateway.Runs
import SocketGateway.Proofs.History
import SocketGateway.Transport.Recorder

/-!
Contract: nobody is online without having been let in.

Owns:
- the trail of a client: the authentication that issued a token, and the connect event that
  presented it;
- that a token takes at most one client into the registry, whenever and however often it comes;
- that the trail survives repetitions, expiry, full tables and changes of the hooks.

The tokens are assumed to differ from each other.

Does not own: which handshakes an application lets in.
-/

namespace SocketGateway.Deployment

variable {World : Type}

/-- The call lets a handshake in as decided by the bind, and returns the token for it. -/
def Issues (deployment : Deployment World) (token : CorrelationToken) (bind : PendingBind)
    (service : Service World) : ServiceCall World → Prop
  | .authenticate request now =>
    service.gateway.Decides request service.world bind ∧
      (deployment.authenticate service request now).1 = .ok token
  | _ => False

/-- The call is a connect event that presents the token and is not turned away. -/
def Registers (deployment : Deployment World) (token : CorrelationToken)
    (service : Service World) : ServiceCall World → Prop
  | .connect presented connection now =>
    presented = token ∧
      ¬ service.gateway.TurnsAway deployment.transport presented connection now service.world
  | _ => False

/-- One of the calls was of that kind when it was made. -/
def Happened (deployment : Deployment World) (kind : Service World → ServiceCall World → Prop)
    (calls : List (ServiceCall World)) : Prop :=
  ∃ before call, before ++ [call] <+: calls ∧ kind (deployment.after before) call

/-- An authentication among the calls decided on the bind and returned the token. -/
def Issued (deployment : Deployment World) (token : CorrelationToken) (bind : PendingBind)
    (calls : List (ServiceCall World)) : Prop :=
  deployment.Happened (deployment.Issues token bind) calls

/-- The trail of a client: it was put into the registry by a connect event that presented a token
of an earlier authentication, under the id and with the option that this authentication decided,
and it has been there since. -/
def Placed (deployment : Deployment World) (id : ClientId) (client : Client)
    (calls : List (ServiceCall World)) : Prop :=
  ∃ before token connection now, before ++ [.connect token connection now] <+: calls ∧
    deployment.Issued token ⟨id, client.option⟩ before ∧
    deployment.Registers token (deployment.after before) (.connect token connection now) ∧
    client = ⟨id, client.option, some connection⟩ ∧
    (deployment.after before).gateway.clients.get? id ≠ some client ∧
    ∀ since, before ++ [.connect token connection now] <+: since → since <+: calls →
      (deployment.after since).gateway.clients.get? id = some client

/-- Nobody is online without an authentication. -/
structure Vouched (deployment : Deployment World) (calls : List (ServiceCall World)) : Prop where
  online : ∀ id client, (deployment.after calls).gateway.clients.get? id = some client →
    Text.isBlank id.text = false ∧ deployment.Placed id client calls
  once : ∀ token before left between right, before ++ left :: (between ++ [right]) <+: calls →
    deployment.Registers token (deployment.after before) left →
    ¬ deployment.Registers token (deployment.after (before ++ left :: between)) right
  /-- Connect events that are turned away do not count as registrations. -/
  turnedAway : ∀ token connection now,
    (deployment.after calls).gateway.TurnsAway deployment.transport token connection now
      (deployment.after calls).world →
    (deployment.after (calls ++ [.connect token connection now])).gateway.clients =
      (deployment.after calls).gateway.clients
  /-- Without a bind that waits for it, a connect event is turned away. -/
  uninvited : ∀ token connection now,
    ((deployment.after calls).gateway.pending.binds.take token now).1 = none →
    (deployment.after calls).gateway.TurnsAway deployment.transport token connection now
      (deployment.after calls).world

variable {deployment : Deployment World}

/-! ### Kinds of calls -/

section Kinds

variable {kind : Service World → ServiceCall World → Prop} {calls : List (ServiceCall World)}

theorem Happened.mono (happened : deployment.Happened kind calls)
    {longer : List (ServiceCall World)} (isPrefix : calls <+: longer) :
    deployment.Happened kind longer := by
  obtain ⟨before, call, among, was⟩ := happened
  exact ⟨before, call, among.trans isPrefix, was⟩

private theorem happened_nil : ¬ deployment.Happened kind [] := by
  rintro ⟨before, call, among, -⟩
  simp at among

private theorem happened_concat (call : ServiceCall World) :
    deployment.Happened kind (calls ++ [call]) ↔
      deployment.Happened kind calls ∨ kind (deployment.after calls) call :=
  exists_before_concat

end Kinds

/-! ### The invariant -/

/-- What links the tokens of a run, the binds that wait and the registry. -/
structure Sound (deployment : Deployment World) (calls : List (ServiceCall World)) : Prop where
  drawn : ∀ {token bind}, deployment.Issued token bind calls →
    ∃ number < (deployment.after calls).drawn, deployment.tokens number = token
  /-- A bind waits until its token registers. -/
  waiting : ∀ {token : CorrelationToken} {held : Held PendingBind},
    (deployment.after calls).gateway.pending.binds.entries[token]? = some held →
      deployment.Issued token held.value calls ∧
        ¬ deployment.Happened (deployment.Registers token) calls
  invited : ∀ {token}, deployment.Happened (deployment.Registers token) calls →
    ∃ bind, deployment.Issued token bind calls
  placed : ∀ {id client}, (deployment.after calls).gateway.clients.get? id = some client →
    deployment.Placed id client calls

private theorem sound_nil (deployment : Deployment World) : deployment.Sound [] where
  drawn issued := absurd issued happened_nil
  waiting := by
    intro token held found
    simp [after, start, Gateway.new, PendingBinds.new, ExpiringMap.new] at found
  invited happened := absurd happened happened_nil
  placed := by
    intro id client found
    simp [after, start, Gateway.new, ClientRegistry.get?] at found

section Step

variable {calls : List (ServiceCall World)} {call : ServiceCall World}

/-- A connect event that is not turned away found a bind. -/
theorem Registers.waited {service : Service World} {token : CorrelationToken}
    (registers : deployment.Registers token service call) :
    ∃ connection now bind, call = .connect token connection now ∧
      (service.gateway.pending.beginConnect token now).1 = .admitted (some bind) ∧
      (service.gateway.pending.binds.take token now).1 = some bind := by
  cases call with
  | connect presented connection now =>
    obtain ⟨rfl, reaches⟩ := registers
    rcases service.gateway.connect_outcome deployment.transport presented connection now
      service.world with ⟨bind, admitted, -, -⟩ | ⟨turned, -⟩
    · exact ⟨connection, now, bind, rfl, admitted, PendingBinds.beginConnect_takes admitted⟩
    · exact absurd turned reaches
  | _ => exact registers.elim

theorem Issues.drawn {service : Service World} {token : CorrelationToken} {bind : PendingBind}
    (issues : deployment.Issues token bind service call) :
    token = deployment.tokens service.drawn ∧
      (deployment.perform service call).drawn = service.drawn + 1 := by
  cases call with
  | authenticate request now =>
    obtain ⟨-, returned⟩ := issues
    rcases deployment.perform_authenticate service request now with
      ⟨cause, denied, -, -⟩ | ⟨bind, -, fresh, -, count⟩
    · rw [denied] at returned
      cases returned
    · rw [fresh] at returned
      exact ⟨(Except.ok.inj returned).symm, count⟩
  | _ => exact issues.elim

theorem drawn_le_perform (service : Service World) (call : ServiceCall World) :
    service.drawn ≤ (deployment.perform service call).drawn := by
  cases call with
  | authenticate request now =>
    rcases deployment.perform_authenticate service request now with
      ⟨cause, -, -, count⟩ | ⟨bind, -, -, -, count⟩
    · exact Nat.le_of_eq count.symm
    · rw [count]
      exact Nat.le_succ _
  | _ => exact Nat.le_refl _

private theorem Issues.not_registers {service : Service World} {token other : CorrelationToken}
    {bind : PendingBind} (issues : deployment.Issues token bind service call) :
    ¬ deployment.Registers other service call := by
  cases call with
  | authenticate request now => exact id
  | _ => exact issues.elim

/-- A bind that waits after a call waited before it, and its token was not registered, or was just
decided under the token that the call returned. -/
theorem waiting_perform {service : Service World} {token : CorrelationToken}
    {held : Held PendingBind}
    (found : (deployment.perform service call).gateway.pending.binds.entries[token]? = some held) :
    service.gateway.pending.binds.entries[token]? = some held ∧
        ¬ deployment.Registers token service call ∨
      deployment.Issues token held.value service call := by
  cases call with
  | authenticate request now =>
    rcases deployment.perform_authenticate service request now with
      ⟨cause, -, same, -⟩ | ⟨bind, decides, returned, stashed, -⟩
    · rw [same] at found
      exact Or.inl ⟨found, id⟩
    · rw [stashed] at found
      rcases PendingBinds.stash_origin _ _ bind now found with ⟨rfl, isBind⟩ | old
      · exact Or.inr ⟨isBind ▸ decides, returned⟩
      · exact Or.inl ⟨old, id⟩
  | connect presented connection now =>
    rw [pending_connect] at found
    obtain ⟨spared, old⟩ := PendingBinds.beginConnect_origin found
    refine Or.inl ⟨old, ?_⟩
    intro registers
    obtain ⟨_, _, bind, same, admitted, -⟩ := registers.waited
    cases same
    rcases spared with duplicate | different
    · rw [duplicate] at admitted
      cases admitted
    · exact different rfl
  | disconnect connection =>
    rw [pending_disconnect] at found
    exact Or.inl ⟨found, id⟩
  | dispatch connection event data => exact Or.inl ⟨found, id⟩
  | signal id event data => exact Or.inl ⟨found, fun registers => registers⟩
  | setHooks hooks => exact Or.inl ⟨found, id⟩
  | setAdapter adaptor => exact Or.inl ⟨found, id⟩

theorem Sound.drawn_concat (sound : deployment.Sound calls) {token : CorrelationToken}
    {bind : PendingBind} (issued : deployment.Issued token bind (calls ++ [call])) :
    ∃ number < (deployment.after (calls ++ [call])).drawn, deployment.tokens number = token := by
  rw [after_concat]
  rcases happened_concat call |>.mp issued with before | now
  · obtain ⟨number, less, same⟩ := sound.drawn before
    exact ⟨number, Nat.lt_of_lt_of_le less (drawn_le_perform _ call), same⟩
  · obtain ⟨same, count⟩ := now.drawn
    refine ⟨_, ?_, same.symm⟩
    rw [count]
    exact Nat.lt_succ_self _

theorem Sound.invited_concat (sound : deployment.Sound calls) {token : CorrelationToken}
    (happened : deployment.Happened (deployment.Registers token) (calls ++ [call])) :
    ∃ bind, deployment.Issued token bind (calls ++ [call]) := by
  have isPrefix : calls <+: calls ++ [call] := List.prefix_append calls [call]
  rcases happened_concat call |>.mp happened with before | registers
  · obtain ⟨bind, issued⟩ := sound.invited before
    exact ⟨bind, issued.mono isPrefix⟩
  · obtain ⟨connection, now, bind, -, -, taken⟩ := registers.waited
    obtain ⟨held, found, -⟩ := ExpiringMap.take_eq_some taken
    exact ⟨held.value, (sound.waiting found).1.mono isPrefix⟩

theorem Sound.waiting_concat (sound : deployment.Sound calls)
    (distinct : Function.Injective deployment.tokens) {token : CorrelationToken}
    {held : Held PendingBind}
    (found : (deployment.after (calls ++ [call])).gateway.pending.binds.entries[token]? =
      some held) :
    deployment.Issued token held.value (calls ++ [call]) ∧
      ¬ deployment.Happened (deployment.Registers token) (calls ++ [call]) := by
  rw [after_concat] at found
  rw [Issued, happened_concat, happened_concat]
  rcases waiting_perform found with ⟨old, idle⟩ | issues
  · obtain ⟨issued, unused⟩ := sound.waiting old
    exact ⟨Or.inl issued, not_or.mpr ⟨unused, idle⟩⟩
  · refine ⟨Or.inr issues, not_or.mpr ⟨?_, issues.not_registers⟩⟩
    -- a fresh token is none of those that were presented with success
    intro before
    obtain ⟨earlier, issuedBefore⟩ := sound.invited before
    obtain ⟨number, less, same⟩ := sound.drawn issuedBefore
    exact Nat.ne_of_lt less (distinct (same.trans issues.drawn.1))

/-- A client that stays in the registry keeps its trail. -/
theorem Placed.concat {id : ClientId} {client : Client} (placed : deployment.Placed id client calls)
    (stays : (deployment.after (calls ++ [call])).gateway.clients.get? id = some client) :
    deployment.Placed id client (calls ++ [call]) := by
  obtain ⟨before, token, connection, now, among, issued, registers, isClient, fresh, since⟩ :=
    placed
  refine ⟨before, token, connection, now, among.trans (List.prefix_append calls [call]), issued,
    registers, isClient, fresh, ?_⟩
  intro later isLater isPrefix
  rcases List.prefix_concat_iff.mp isPrefix with rfl | earlier
  · exact stays
  · exact since later isLater earlier

theorem Sound.placed_concat (sound : deployment.Sound calls) {id : ClientId} {client : Client}
    (found : (deployment.after (calls ++ [call])).gateway.clients.get? id = some client) :
    deployment.Placed id client (calls ++ [call]) := by
  by_cases before : (deployment.after calls).gateway.clients.get? id = some client
  · exact (sound.placed before).concat found
  -- a client that is new or changed can only come from a bind that waited
  · have performed := found
    rw [after_concat] at performed
    rcases client_origin (deployment.consistent_after calls) performed with
      old | ⟨token, connection, now, bind, rfl, admitted, reaches, rfl, isClient⟩
    · exact absurd old before
    · obtain ⟨held, waits, isBind⟩ := ExpiringMap.take_eq_some
        (PendingBinds.beginConnect_takes admitted)
      have issued : deployment.Issued token ⟨bind.client, client.option⟩ calls := by
        rw [isClient, ← isBind]
        exact (sound.waiting waits).1
      refine ⟨calls, token, connection, now, List.prefix_rfl, issued, ⟨rfl, reaches⟩, ?_, before,
        ?_⟩
      · rw [isClient]
      · intro since isLater isPrefix
        rw [isPrefix.eq_of_length_le isLater.length_le]
        exact found

end Step

theorem sound_after (distinct : Function.Injective deployment.tokens)
    (calls : List (ServiceCall World)) : deployment.Sound calls := by
  induction calls using List.reverseRecOn with
  | nil => exact deployment.sound_nil
  | append_singleton calls call inductionHypothesis =>
    refine ⟨?_, ?_, ?_, ?_⟩
    · exact inductionHypothesis.drawn_concat
    · exact inductionHypothesis.waiting_concat distinct
    · exact inductionHypothesis.invited_concat
    · exact inductionHypothesis.placed_concat

/-! ### Result -/

theorem Issued.notBlank {token : CorrelationToken} {bind : PendingBind}
    {calls : List (ServiceCall World)} (issued : deployment.Issued token bind calls) :
    Text.isBlank bind.client.text = false := by
  obtain ⟨before, call, -, issues⟩ := issued
  cases call with
  | authenticate request now => exact issues.1.notBlank
  | _ => exact issues.elim

/-- If the tokens differ from each other, then after any calls every client in the registry was put
there by a connect event whose token an earlier authentication had returned, with what this
authentication decided; no token registers twice, and a connect event for which no bind waits
changes nothing in the registry. -/
theorem clients_vouched (deployment : Deployment World)
    (distinct : Function.Injective deployment.tokens) (calls : List (ServiceCall World)) :
    deployment.Vouched calls where
  online := by
    intro id client found
    have placed := (sound_after distinct calls).placed found
    have ⟨before, token, connection, now, _, issued, _⟩ := placed
    exact ⟨issued.notBlank, placed⟩
  once := by
    intro token before left between right _ first second
    obtain ⟨connection, now, bind, -, -, taken⟩ := second.waited
    obtain ⟨held, found, -⟩ := ExpiringMap.take_eq_some taken
    -- the second event found a bind that waited, so its token had not registered
    apply ((sound_after distinct _).waiting found).2
    have isPrefix : before ++ [left] <+: before ++ left :: between := by
      rw [List.prefix_append_right_inj]
      exact List.prefix_append [left] between
    exact ⟨before, left, isPrefix, first⟩
  turnedAway := by
    intro token connection now turned
    rw [after_concat, perform]
    rcases Gateway.connect_outcome _ deployment.transport token connection now _ with
      ⟨bind, -, reaches, -⟩ | ⟨-, left⟩
    · exact absurd turned reaches
    · rw [left]
  uninvited := by
    intro token connection now nothing
    rcases Gateway.connect_outcome _ deployment.transport token connection now _ with
      ⟨bind, admitted, -, -⟩ | ⟨turned, -⟩
    · rw [PendingBinds.beginConnect_takes admitted] at nothing
      cases nothing
    · exact turned

/-- A gateway whose tokens are numbered, with an option for every client. -/
def rehearsal : Deployment Recording where
  transport := Recording.transport fun _ => []
  tokens number := ⟨number.repr⟩
  config := { optionRequired := true }
  clock := .fixed 0
  world := {}

/-- A client is let in and presents its token twice, and somebody else presents another one. -/
def visits : List (ServiceCall Recording) :=
  [.setHooks { authenticate := some fun text world => (.ok (text, "blue"), world) },
    .authenticate (Handshake.withQuery {} "token" "u1") 0,
    .connect ⟨"0"⟩ ⟨⟨"c1"⟩, "first"⟩ 1, .connect ⟨"0"⟩ ⟨⟨"c2"⟩, "second"⟩ 2,
    .connect ⟨"1"⟩ ⟨⟨"c3"⟩, "third"⟩ 3]

theorem visits_vouched :
    Function.Injective rehearsal.tokens ∧ rehearsal.Vouched visits ∧
      (rehearsal.after visits).gateway.clients.clientIds = [⟨"u1"⟩] ∧
      (rehearsal.after visits).gateway.clients.get? ⟨"u1"⟩ =
        some ⟨⟨"u1"⟩, "blue", some ⟨⟨"c1"⟩, "first"⟩⟩ := by
  have distinct : Function.Injective rehearsal.tokens := by
    intro left right same
    exact Nat.repr_injective (CorrelationToken.mk.inj same)
  exact ⟨distinct, clients_vouched rehearsal distinct visits, by decide +kernel, by decide +kernel⟩

end SocketGateway.Deployment
