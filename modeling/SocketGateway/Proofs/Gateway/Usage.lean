import SocketGateway.Proofs.Gateway.Admission
import SocketGateway.Proofs.History

/-!
Contract: a gateway in use, together with the registries that it lends out.

Owns:
- what may be done with a gateway: calls on it, and an application's own calls on its registries;
- that the registry of clients stays consistent under all of this;
- that a bind that waits is what the authentication that returned its token decided.

Hooks, handlers and transport may answer anything, and anything may happen to the world meanwhile.

Does not own: what a single event does.
-/

namespace SocketGateway

/-- What may be done with a gateway. -/
inductive Usage (World : Type) where
  | call (call : ServiceCall World)
  | register (id : ClientId) (connection : Connection) (option : String)
  | deregister (connection : Connection)
  | idle (id : ClientId)
  | leaveIdle (id : ClientId)
  | setOption (id : ClientId) (option : String)
  /-- The application rearranges its groups and rooms. -/
  | rearrange (change : RoomRegistry → RoomRegistry)
  /-- Something happens to the world. -/
  | pass (change : World → World)

namespace Deployment

variable {World : Type}

def use (deployment : Deployment World) (service : Service World) : Usage World → Service World
  | .call call => deployment.perform service call
  | .register id connection option =>
    let outcome :=
      service.gateway.register deployment.transport id connection option service.world
    { service with gateway := outcome.2.1, world := outcome.2.2 }
  | .deregister connection =>
    let outcome := service.gateway.deregister deployment.transport connection service.world
    { service with gateway := outcome.2.1, world := outcome.2.2 }
  | .idle id => { service with gateway := (service.gateway.idle id).2 }
  | .leaveIdle id =>
    { service with
      gateway := { service.gateway with clients := service.gateway.clients.leaveIdle id } }
  | .setOption id option =>
    { service with
      gateway :=
        { service.gateway with clients := (service.gateway.clients.setOption id option).2 } }
  | .rearrange change =>
    { service with gateway := { service.gateway with rooms := change service.gateway.rooms } }
  | .pass change => { service with world := change service.world }

/-- The gateway after all this was done with it. -/
def used (deployment : Deployment World) (usages : List (Usage World)) : Service World :=
  usages.foldl deployment.use deployment.start

/-- It is an authentication that decides on the bind and returns the token. -/
def Grants (deployment : Deployment World) (token : CorrelationToken) (bind : PendingBind)
    (service : Service World) : Usage World → Prop
  | .call call => deployment.Issues token bind service call
  | _ => False

/-- An authentication so far decided on the bind and returned the token. -/
def Granted (deployment : Deployment World) (token : CorrelationToken) (bind : PendingBind)
    (usages : List (Usage World)) : Prop :=
  ∃ before usage, before ++ [usage] <+: usages ∧
    deployment.Grants token bind (deployment.used before) usage

variable {deployment : Deployment World} {service : Service World} {usages : List (Usage World)}
  {token : CorrelationToken} {bind other : PendingBind}

theorem used_concat (usages : List (Usage World)) (usage : Usage World) :
    deployment.used (usages ++ [usage]) = deployment.use (deployment.used usages) usage := by
  simp [used]

/-! ### The registry -/

theorem consistent_use (consistent : service.gateway.clients.Consistent) (usage : Usage World) :
    (deployment.use service usage).gateway.clients.Consistent := by
  cases usage with
  | call call => exact consistent_perform consistent call
  | register id connection option => exact consistent.register id connection option _
  | deregister connection => exact consistent.deregister connection
  | idle id => exact consistent.idle id _
  | leaveIdle id => exact consistent.leaveIdle id
  | setOption id option => exact consistent.setOption id option
  | rearrange change => exact consistent
  | pass change => exact consistent

theorem consistent_used (deployment : Deployment World) (usages : List (Usage World)) :
    (deployment.used usages).gateway.clients.Consistent := by
  induction usages using List.reverseRecOn with
  | nil => exact deployment.consistent_start
  | append_singleton usages usage inductionHypothesis =>
    rw [used_concat]
    exact consistent_use inductionHypothesis usage

/-! ### The binds that wait -/

private theorem granted_nil : ¬ deployment.Granted token bind [] := by
  rintro ⟨before, usage, among, -⟩
  simp at among

private theorem granted_concat (usage : Usage World) :
    deployment.Granted token bind (usages ++ [usage]) ↔
      deployment.Granted token bind usages ∨
        deployment.Grants token bind (deployment.used usages) usage :=
  exists_before_concat

/-- A bind that waits was decided by an authentication that returned its token. -/
theorem granted_of_waiting {held : Held PendingBind}
    (found : (deployment.used usages).gateway.pending.binds.entries[token]? = some held) :
    deployment.Granted token held.value usages := by
  induction usages using List.reverseRecOn with
  | nil => simp [used, start, Gateway.new, PendingBinds.new, ExpiringMap.new] at found
  | append_singleton usages usage inductionHypothesis =>
    rw [used_concat] at found
    rw [granted_concat]
    cases usage with
    | call call =>
      rcases waiting_perform found with ⟨before, -⟩ | issues
      · exact Or.inl (inductionHypothesis before)
      · exact Or.inr issues
    | register | deregister | idle | leaveIdle | setOption | rearrange | pass =>
      exact Or.inl (inductionHypothesis found)

/-! ### Each token is returned once -/

private theorem drawn_le_use (service : Service World) (usage : Usage World) :
    service.drawn ≤ (deployment.use service usage).drawn := by
  cases usage with
  | call call => exact drawn_le_perform service call
  | register | deregister | idle | leaveIdle | setOption | rearrange | pass => exact Nat.le_refl _

theorem Grants.drawn {usage : Usage World}
    (grants : deployment.Grants token bind service usage) :
    token = deployment.tokens service.drawn ∧
      (deployment.use service usage).drawn = service.drawn + 1 := by
  cases usage with
  | call call => exact Issues.drawn grants
  | register | deregister | idle | leaveIdle | setOption | rearrange | pass => exact grants.elim

theorem Granted.drawn (granted : deployment.Granted token bind usages) :
    ∃ number < (deployment.used usages).drawn, deployment.tokens number = token := by
  induction usages using List.reverseRecOn with
  | nil => exact absurd granted granted_nil
  | append_singleton usages usage inductionHypothesis =>
    rw [used_concat]
    rcases granted_concat usage |>.mp granted with before | grants
    · obtain ⟨number, less, same⟩ := inductionHypothesis before
      exact ⟨number, Nat.lt_of_lt_of_le less (drawn_le_use _ usage), same⟩
    · obtain ⟨same, count⟩ := grants.drawn
      refine ⟨_, ?_, same.symm⟩
      rw [count]
      exact Nat.lt_succ_self _

theorem Grants.bind_unique {usage : Usage World}
    (grants : deployment.Grants token bind service usage)
    (grantsOther : deployment.Grants token other service usage) : bind = other := by
  cases usage with
  | call call =>
    cases call with
    | authenticate request now => exact grants.1.unique grantsOther.1
    | _ => exact grants.elim
  | register | deregister | idle | leaveIdle | setOption | rearrange | pass => exact grants.elim

/-- What is granted under the next token is not granted by an earlier authentication. -/
theorem Granted.not_next (distinct : Function.Injective deployment.tokens) {usage : Usage World}
    (granted : deployment.Granted token bind usages) :
    ¬ deployment.Grants token other (deployment.used usages) usage := by
  intro grants
  obtain ⟨number, less, same⟩ := granted.drawn
  exact Nat.ne_of_lt less (distinct (same.trans grants.drawn.1))

/-- If the tokens differ from each other, only one authentication returned a given one. -/
theorem Granted.bind_unique (distinct : Function.Injective deployment.tokens)
    (granted : deployment.Granted token bind usages)
    (grantedOther : deployment.Granted token other usages) : bind = other := by
  induction usages using List.reverseRecOn with
  | nil => exact absurd granted granted_nil
  | append_singleton usages usage inductionHypothesis =>
    rcases granted_concat usage |>.mp granted with before | grants
    · rcases granted_concat usage |>.mp grantedOther with otherBefore | otherGrants
      · exact inductionHypothesis before otherBefore
      · exact absurd otherGrants (before.not_next distinct)
    · rcases granted_concat usage |>.mp grantedOther with otherBefore | otherGrants
      · exact absurd grants (otherBefore.not_next distinct)
      · exact grants.bind_unique otherGrants

end Deployment

end SocketGateway
