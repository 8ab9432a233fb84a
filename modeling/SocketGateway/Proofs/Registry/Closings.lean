import SocketGateway.Gateway
import SocketGateway.Proofs.Registry.Consistency

/-!
Contract: which connections are closed while clients are registered and deregistered.

Owns:
- runs of the calls that bind and unbind connections, over any transport;
- the list of the connections that a run closes;
- the account: who is closed in each call, that nobody is unbound without being closed, and that
  nobody is closed while it is bound.

Does not own: what closing a connection does.
-/

namespace SocketGateway

/-- A call that binds or unbinds a connection. -/
inductive BindingCall where
  | register (id : ClientId) (connection : Connection) (option : String)
  | deregister (connection : Connection)
deriving DecidableEq, Repr

namespace BindingCall

def connection : BindingCall → Connection
  | .register _ connection _ => connection
  | .deregister connection => connection

/-- Performs a call on a gateway and the world around it. -/
def perform {World : Type} (transport : Transport World) (state : Gateway World × World) :
    BindingCall → Gateway World × World
  | .register id connection option =>
    (state.1.register transport id connection option state.2).2
  | .deregister connection => (state.1.deregister transport connection state.2).2

/-- Performs calls in turn. -/
def performAll {World : Type} (transport : Transport World) (calls : List BindingCall)
    (state : Gateway World × World) : Gateway World × World :=
  calls.foldl (perform transport) state

/-- The transport that lists the connections it is told to close. -/
def listing : Transport (List Connection) where
  emit := fun _ _ _ closed => (.ok (), closed)
  join := fun _ _ closed => (.ok (), closed)
  leave := fun _ _ closed => (.ok (), closed)
  rooms := fun _ _ => []
  broadcast := fun _ _ _ _ closed => (.ok (), closed)
  disconnect := fun connection closed => closed ++ [connection]

/-- The gateway after some calls. -/
def run (gateway : Gateway (List Connection)) (calls : List BindingCall) :
    Gateway (List Connection) :=
  (performAll listing calls (gateway, [])).1

/-- The connections that are closed in some calls, in turn. -/
def closings (gateway : Gateway (List Connection)) (calls : List BindingCall) : List Connection :=
  (performAll listing calls (gateway, [])).2

/-- Different connections of these calls have different ids. -/
def DistinctIds (calls : List BindingCall) : Prop :=
  ∀ left ∈ calls.map connection, ∀ right ∈ calls.map connection, left.id = right.id → left = right

instance (calls : List BindingCall) : Decidable (DistinctIds calls) :=
  inferInstanceAs (Decidable (∀ left ∈ _, _))

/-- Whether some client is bound to the connection. -/
def Binds (gateway : Gateway (List Connection)) (connection : Connection) : Prop :=
  ∃ id, gateway.clients.connectionOf id = some connection

/-- The account of a run on a new gateway. -/
structure Accounted (config : Config) (clock : Clock) (calls : List BindingCall) : Prop where
  /-- The calls act on a world by closing the listed connections, and in no other way. -/
  world : ∀ (World : Type) (transport : Transport World) (world : World),
    (performAll transport calls (.new config clock, world)).2 =
      (closings (.new config clock) calls).foldl
        (fun world connection => transport.disconnect connection world) world
  register : ∀ before later id connection option,
    calls = before ++ .register id connection option :: later →
      closings (run (.new config clock) before) [.register id connection option] =
        match (run (.new config clock) before).clients.connectionOf id with
        | some stale => if stale = connection then [] else [stale]
        | none => []
  deregister : ∀ before later connection, calls = before ++ .deregister connection :: later →
    closings (run (.new config clock) before) [.deregister connection] = [connection]
  /-- Whoever was bound at any time is bound or was closed since. -/
  no_zombie : ∀ before later connection, calls = before ++ later →
    Binds (run (.new config clock) before) connection →
      Binds (run (.new config clock) calls) connection ∨
        connection ∈ closings (run (.new config clock) before) later
  /-- Whoever is bound was not closed since the call that bound it. -/
  unharmed : ∀ before call later connection, calls = before ++ call :: later →
    (∀ since, since <+: later →
      Binds (run (.new config clock) (before ++ call :: since)) connection) →
      connection ∉ closings (run (.new config clock) before) (call :: later)

/-! ### Effects -/

section Effects

private theorem perform_listing (gateway : Gateway (List Connection)) (closed : List Connection)
    (call : BindingCall) :
    perform listing (gateway, closed) call =
      (run gateway [call], closed ++ closings gateway [call]) := by
  cases call with
  | register id connection option =>
    simp only [run, closings, performAll, List.foldl_cons, List.foldl_nil, perform,
      Gateway.register]
    cases (gateway.clients.register id connection option gateway.clock.now).evicted with
    | none => simp [Transport.disconnectAny]
    | some stale => simp [Transport.disconnectAny, listing]
  | deregister connection =>
    simp only [run, closings, performAll, List.foldl_cons, List.foldl_nil, perform,
      Gateway.deregister]
    cases (gateway.clients.deregister connection).closed with
    | none => simp [Transport.disconnectAny]
    | some current => simp [Transport.disconnectAny, listing]

private theorem performAll_listing (calls : List BindingCall) (gateway : Gateway (List Connection))
    (closed : List Connection) :
    performAll listing calls (gateway, closed) =
      (run gateway calls, closed ++ closings gateway calls) := by
  induction calls generalizing gateway closed with
  | nil => simp [performAll, run, closings]
  | cons call rest inductionHypothesis =>
    have step : ∀ closed, performAll listing (call :: rest) (gateway, closed) =
        (run (run gateway [call]) rest,
          closed ++ closings gateway [call] ++ closings (run gateway [call]) rest) := by
      intro closed
      rw [← inductionHypothesis, ← perform_listing]
      rfl
    rw [run, closings, step, step]
    simp

theorem run_append (gateway : Gateway (List Connection)) (first second : List BindingCall) :
    run gateway (first ++ second) = run (run gateway first) second := by
  rw [run, performAll, List.foldl_append, ← performAll, ← performAll, performAll_listing,
    performAll_listing]

private theorem closings_append (gateway : Gateway (List Connection))
    (first second : List BindingCall) :
    closings gateway (first ++ second) =
      closings gateway first ++ closings (run gateway first) second := by
  rw [closings, performAll, List.foldl_append, ← performAll, ← performAll, performAll_listing,
    performAll_listing, List.nil_append]

/-- A call does to every world what the list says, whatever else the gateway holds. -/
theorem perform_world {World : Type} (transport : Transport World) {gateway : Gateway World}
    {listed : Gateway (List Connection)} (clients : gateway.clients = listed.clients)
    (clock : gateway.clock = listed.clock) (world : World) (call : BindingCall) :
    (perform transport (gateway, world) call).1.clients = (run listed [call]).clients ∧
      (perform transport (gateway, world) call).1.clock = (run listed [call]).clock ∧
      (perform transport (gateway, world) call).2 = (closings listed [call]).foldl
        (fun world connection => transport.disconnect connection world) world := by
  cases call with
  | register id connection option =>
    simp only [run, closings, performAll, List.foldl_cons, List.foldl_nil, perform,
      Gateway.register, clients, clock, true_and]
    cases (listed.clients.register id connection option listed.clock.now).evicted <;> rfl
  | deregister connection =>
    simp only [run, closings, performAll, List.foldl_cons, List.foldl_nil, perform,
      Gateway.deregister, clients, clock, true_and]
    cases (listed.clients.deregister connection).closed <;> rfl

private theorem performAll_world {World : Type} (transport : Transport World)
    (calls : List BindingCall) {gateway : Gateway World} {listed : Gateway (List Connection)}
    (clients : gateway.clients = listed.clients) (clock : gateway.clock = listed.clock)
    (world : World) :
    (performAll transport calls (gateway, world)).2 = (closings listed calls).foldl
      (fun world connection => transport.disconnect connection world) world := by
  induction calls generalizing gateway listed world with
  | nil => rfl
  | cons call rest inductionHypothesis =>
    obtain ⟨sameClients, sameClock, effect⟩ := perform_world transport clients clock world call
    have split : closings listed (call :: rest) =
        closings listed [call] ++ closings (run listed [call]) rest :=
      closings_append listed [call] rest
    rw [split, List.foldl_append, ← effect]
    exact inductionHypothesis sameClients sameClock _

end Effects

/-! ### Bindings of whole connections -/

section Bindings

/-- No other connection with that id is bound. -/
def Alone (registry : ClientRegistry) (connection : Connection) : Prop :=
  ∀ other current, registry.connectionOf other = some current →
    current.id = connection.id → current = connection

variable {registry : ClientRegistry} {connection : Connection}

theorem Alone.isOn_iff (alone : Alone registry connection) (id : ClientId) :
    registry.IsOn id connection.id ↔ registry.connectionOf id = some connection := by
  rw [ClientRegistry.isOn_iff]
  constructor
  · rintro ⟨current, bound, sameId⟩
    rw [bound, alone id current bound sameId]
  · intro bound
    exact ⟨connection, bound, rfl⟩

private theorem connectionOf_register (consistent : registry.Consistent)
    (alone : Alone registry connection) (id : ClientId) (option : String) (now : Int64)
    (other : ClientId) :
    (registry.register id connection option now).registry.connectionOf other =
      if id = other then some connection
      else if registry.connectionOf other = some connection then none
      else registry.connectionOf other := by
  by_cases same : registry.IsOn id connection.id
  · rw [ClientRegistry.register_same same]
    by_cases isClient : id = other
    · rw [if_pos isClient, ← isClient]
      exact (alone.isOn_iff id).mp same
    · have notThere : registry.connectionOf other ≠ some connection := by
        intro there
        exact isClient (consistent.owner_unique same ((alone.isOn_iff other).mpr there))
      rw [if_neg isClient, if_neg notThere]
  · have moved := (ClientRegistry.register_moved consistent same option now).2.2
    rw [ClientRegistry.connectionOf, moved.clients]
    by_cases isClient : id = other
    · simp [isClient]
    · simp only [isClient, if_false, alone.isOn_iff]
      split
      · rfl
      · rfl

private theorem evicted_register (consistent : registry.Consistent)
    (alone : Alone registry connection) (id : ClientId) (option : String) (now : Int64) :
    (registry.register id connection option now).evicted =
      (registry.connectionOf id).filter (· ≠ connection) := by
  by_cases same : registry.IsOn id connection.id
  · rw [ClientRegistry.register_same same, (alone.isOn_iff id).mp same, Option.filter_some]
    simp
  · rw [(ClientRegistry.register_moved consistent same option now).2.1]
    rw [alone.isOn_iff] at same
    cases bound : registry.connectionOf id with
    | none => rfl
    | some stale =>
      have different : stale ≠ connection := by
        rintro rfl
        exact same bound
      rw [Option.filter_some]
      simp [different]

private theorem deregister_alone (consistent : registry.Consistent)
    (alone : Alone registry connection) :
    (registry.deregister connection).closed = some connection ∧
      ∀ other, (registry.deregister connection).registry.connectionOf other =
        if registry.connectionOf other = some connection then none
        else registry.connectionOf other := by
  cases owner : registry.owners[connection.id]? with
  | none =>
    have unbound : ∀ other, registry.connectionOf other ≠ some connection := by
      intro other
      rw [Ne, ← alone.isOn_iff, ← consistent.owned, owner]
      simp
    rw [ClientRegistry.deregister_unknown owner]
    simp [unbound]
  | some id =>
    have onlyOwner : ∀ other, registry.connectionOf other = some connection ↔ id = other := by
      intro other
      rw [← alone.isOn_iff, ← consistent.owned, owner, Option.some.injEq]
    obtain ⟨client, current, found, bound, sameId, result⟩ :=
      ClientRegistry.deregister_known consistent owner
    have isCurrent : current = connection := by
      apply alone id current _ sameId
      rw [ClientRegistry.connectionOf, found, Option.bind_some, bound]
    rw [result]
    refine ⟨congrArg some isCurrent, fun other => ?_⟩
    simp only [onlyOwner]
    rw [ClientRegistry.connectionOf, ClientRegistry.clients_remove]
    split
    · rfl
    · rfl

end Bindings

/-! ### One call -/

section Step

variable {gateway : Gateway (List Connection)} {connection : Connection}

private theorem binds_register (consistent : gateway.clients.Consistent)
    (alone : Alone gateway.clients connection) (id : ClientId) (option : String)
    (other : Connection) :
    Binds (run gateway [.register id connection option]) other ↔
      other = connection ∨
        (Binds gateway other ∧ gateway.clients.connectionOf id ≠ some other) := by
  have after : ∀ someone, (run gateway [.register id connection option]).clients.connectionOf
      someone = _ :=
    connectionOf_register consistent alone id option gateway.clock.now
  constructor
  · rintro ⟨someone, bound⟩
    rw [after] at bound
    split at bound
    · exact Or.inl (Option.some.inj bound).symm
    · next notClient =>
      split at bound
      · cases bound
      -- the client's former connection is bound to nobody else
      · refine Or.inr ⟨⟨someone, bound⟩, fun itsClient => notClient ?_⟩
        have onClient := ClientRegistry.isOn_iff.mpr ⟨other, itsClient, rfl⟩
        have onSomeone := ClientRegistry.isOn_iff.mpr ⟨other, bound, rfl⟩
        exact consistent.owner_unique onClient onSomeone
  · rintro (rfl | ⟨⟨someone, bound⟩, notItsClient⟩)
    · exact ⟨id, by rw [after, if_pos rfl]⟩
    · have notClient : id ≠ someone := by
        rintro rfl
        exact notItsClient bound
      by_cases isNew : other = connection
      · exact ⟨id, by rw [after, if_pos rfl, isNew]⟩
      · refine ⟨someone, ?_⟩
        rw [after, if_neg notClient, if_neg, bound]
        rw [bound, Option.some.injEq]
        exact isNew

private theorem closings_register (consistent : gateway.clients.Consistent)
    (alone : Alone gateway.clients connection) (id : ClientId) (option : String) :
    closings gateway [.register id connection option] =
      ((gateway.clients.connectionOf id).filter (· ≠ connection)).toList := by
  rw [← evicted_register consistent alone id option gateway.clock.now]
  simp only [closings, performAll, List.foldl_cons, List.foldl_nil, perform, Gateway.register]
  cases (gateway.clients.register id connection option gateway.clock.now).evicted <;> rfl

private theorem mem_closings_register (consistent : gateway.clients.Consistent)
    (alone : Alone gateway.clients connection) (id : ClientId) (option : String)
    (other : Connection) :
    other ∈ closings gateway [.register id connection option] ↔
      gateway.clients.connectionOf id = some other ∧ other ≠ connection := by
  rw [closings_register consistent alone]
  simp [Option.filter_eq_some_iff]

private theorem binds_deregister (consistent : gateway.clients.Consistent)
    (alone : Alone gateway.clients connection) (other : Connection) :
    Binds (run gateway [.deregister connection]) other ↔
      Binds gateway other ∧ other ≠ connection := by
  have after : ∀ someone, (run gateway [.deregister connection]).clients.connectionOf someone = _ :=
    (deregister_alone consistent alone).2
  constructor
  · rintro ⟨someone, bound⟩
    rw [after] at bound
    split at bound
    · cases bound
    · next notClosed =>
      refine ⟨⟨someone, bound⟩, ?_⟩
      rintro rfl
      exact notClosed bound
  · rintro ⟨⟨someone, bound⟩, notClosed⟩
    refine ⟨someone, ?_⟩
    rw [after, bound, if_neg]
    rw [Option.some.injEq]
    exact notClosed

private theorem closings_deregister (consistent : gateway.clients.Consistent)
    (alone : Alone gateway.clients connection) :
    closings gateway [.deregister connection] = [connection] := by
  simp only [closings, performAll, List.foldl_cons, List.foldl_nil, perform, Gateway.deregister]
  rw [(deregister_alone consistent alone).1]
  rfl

/-- A consistent gateway on which only some known connections are bound. -/
structure Sound (known : List Connection) (gateway : Gateway (List Connection)) : Prop where
  consistent : gateway.clients.Consistent
  bound : ∀ connection, Binds gateway connection → connection ∈ known

variable {known : List Connection}
  (distinct : ∀ left ∈ known, ∀ right ∈ known, left.id = right.id → left = right)

include distinct

theorem Sound.alone (sound : Sound known gateway) (member : connection ∈ known) :
    Alone gateway.clients connection := by
  intro other current bound sameId
  exact distinct current (sound.bound current ⟨other, bound⟩) connection member sameId

theorem Sound.step (sound : Sound known gateway) {call : BindingCall}
    (member : call.connection ∈ known) : Sound known (run gateway [call]) := by
  have consistent := sound.consistent
  cases call with
  | register id connection option =>
    have alone : Alone gateway.clients connection := sound.alone distinct member
    refine ⟨consistent.register _ _ _ _, fun other bound => ?_⟩
    rcases (binds_register consistent alone id option other).mp bound with rfl | ⟨before, -⟩
    · exact member
    · exact sound.bound other before
  | deregister connection =>
    have alone : Alone gateway.clients connection := sound.alone distinct member
    refine ⟨consistent.deregister _, fun other bound => ?_⟩
    exact sound.bound other ((binds_deregister consistent alone other).mp bound).1

/-- In one call, whoever is bound stays bound or is closed, and not both. -/
theorem Sound.bound_or_closed (sound : Sound known gateway) {call : BindingCall}
    (member : call.connection ∈ known) (other : Connection) :
    (Binds gateway other → Binds (run gateway [call]) other ∨ other ∈ closings gateway [call]) ∧
      (Binds (run gateway [call]) other → other ∉ closings gateway [call]) := by
  have consistent := sound.consistent
  cases call with
  | register id connection option =>
    have alone : Alone gateway.clients connection := sound.alone distinct member
    rw [binds_register consistent alone, mem_closings_register consistent alone]
    constructor
    · intro before
      by_cases isNew : other = connection
      · exact Or.inl (Or.inl isNew)
      · by_cases stale : gateway.clients.connectionOf id = some other
        · exact Or.inr ⟨stale, isNew⟩
        · exact Or.inl (Or.inr ⟨before, stale⟩)
    · rintro (isNew | ⟨-, notStale⟩) ⟨stale, different⟩
      · exact different isNew
      · exact notStale stale
  | deregister connection =>
    have alone : Alone gateway.clients connection := sound.alone distinct member
    rw [binds_deregister consistent alone, closings_deregister consistent alone,
      List.mem_singleton]
    constructor
    · intro before
      by_cases isClosed : other = connection
      · exact Or.inr isClosed
      · exact Or.inl ⟨before, isClosed⟩
    · exact And.right

end Step

/-! ### Runs -/

theorem sound_new (known : List Connection) (config : Config) (clock : Clock) :
    Sound known (.new config clock) where
  consistent := ClientRegistry.consistent_empty
  bound := by
    rintro connection ⟨id, bound⟩
    simp [Gateway.new, ClientRegistry.connectionOf] at bound

section Runs

variable {known : List Connection}
  (distinct : ∀ left ∈ known, ∀ right ∈ known, left.id = right.id → left = right)
  {gateway : Gateway (List Connection)}

include distinct

theorem Sound.run (sound : Sound known gateway) (calls : List BindingCall)
    (members : ∀ call ∈ calls, call.connection ∈ known) :
    Sound known (BindingCall.run gateway calls) := by
  induction calls generalizing gateway with
  | nil => exact sound
  | cons call rest inductionHypothesis =>
    obtain ⟨member, membersOfRest⟩ := List.forall_mem_cons.mp members
    rw [← List.singleton_append, run_append]
    apply inductionHypothesis
    · exact sound.step distinct member
    · exact membersOfRest

theorem Sound.no_zombie (sound : Sound known gateway) (calls : List BindingCall)
    (members : ∀ call ∈ calls, call.connection ∈ known) {connection : Connection}
    (bound : Binds gateway connection) :
    Binds (BindingCall.run gateway calls) connection ∨ connection ∈ closings gateway calls := by
  induction calls generalizing gateway with
  | nil => exact Or.inl bound
  | cons call rest inductionHypothesis =>
    obtain ⟨member, membersOfRest⟩ := List.forall_mem_cons.mp members
    rw [← List.singleton_append, run_append, closings_append, List.mem_append]
    rcases (sound.bound_or_closed distinct member connection).1 bound with still | closed
    · have sound' := sound.step distinct member
      rcases inductionHypothesis sound' membersOfRest still with still | closed
      · exact Or.inl still
      · exact Or.inr (Or.inr closed)
    · exact Or.inr (Or.inl closed)

/-- Whoever is bound after each of some calls was closed in none of them. -/
theorem Sound.unharmed (sound : Sound known gateway) (call : BindingCall)
    (rest : List BindingCall) (members : ∀ later ∈ call :: rest, later.connection ∈ known)
    {connection : Connection}
    (bound : ∀ since, since <+: rest →
      Binds (BindingCall.run gateway (call :: since)) connection) :
    connection ∉ closings gateway (call :: rest) := by
  -- the first call is kept apart: before it, the connection need not be bound
  induction rest generalizing gateway call with
  | nil =>
    have member := members call List.mem_cons_self
    exact (sound.bound_or_closed distinct member connection).2 (bound [] List.prefix_rfl)
  | cons next rest inductionHypothesis =>
    obtain ⟨member, membersOfRest⟩ := List.forall_mem_cons.mp members
    have sound' := sound.step distinct member
    have notNow := (sound.bound_or_closed distinct member connection).2 (bound [] List.nil_prefix)
    rw [← List.singleton_append, closings_append, List.mem_append, not_or]
    refine ⟨notNow, inductionHypothesis sound' next membersOfRest ?_⟩
    intro since isPrefix
    rw [← run_append]
    exact bound (next :: since) (List.cons_prefix_cons.mpr ⟨rfl, isPrefix⟩)

end Runs

/-- Wherever a run is split, its first part leaves a sound gateway and its second part keeps to the
connections of the run. -/
theorem sound_split (config : Config) (clock : Clock) {calls before later : List BindingCall}
    (distinct : DistinctIds calls) (split : calls = before ++ later) :
    Sound (calls.map BindingCall.connection) (BindingCall.run (.new config clock) before) ∧
      ∀ call ∈ later, call.connection ∈ calls.map BindingCall.connection := by
  have members : ∀ call ∈ calls, call.connection ∈ calls.map BindingCall.connection := by
    intro call member
    exact List.mem_map_of_mem member
  subst split
  constructor
  · apply (sound_new _ config clock).run distinct
    intro call member
    exact members call (List.mem_append_left later member)
  · intro call member
    exact members call (List.mem_append_right before member)

/-- With distinct ids for distinct connections, each run of registrations and deregistrations
closes exactly the connections of its account. -/
theorem closings_accounted (config : Config) (clock : Clock) {calls : List BindingCall}
    (distinct : DistinctIds calls) : Accounted config clock calls := by
  refine ⟨?_, ?_, ?_, ?_, ?_⟩
  · intro World transport world
    exact performAll_world transport calls rfl rfl world
  · intro before later id connection option split
    obtain ⟨sound, members⟩ := sound_split config clock distinct split
    have known : connection ∈ calls.map BindingCall.connection := members _ List.mem_cons_self
    rw [closings_register sound.consistent (sound.alone distinct known)]
    cases (run (.new config clock) before).clients.connectionOf id with
    | none => rfl
    | some stale => by_cases same : stale = connection <;> simp [same, Option.filter_some]
  · intro before later connection split
    obtain ⟨sound, members⟩ := sound_split config clock distinct split
    have known : connection ∈ calls.map BindingCall.connection := members _ List.mem_cons_self
    exact closings_deregister sound.consistent (sound.alone distinct known)
  · intro before later connection split bound
    obtain ⟨sound, members⟩ := sound_split config clock distinct split
    have now := sound.no_zombie distinct later members bound
    rwa [← run_append, ← split] at now
  · intro before call later connection split bound
    obtain ⟨sound, members⟩ := sound_split config clock distinct split
    apply sound.unharmed distinct call later members
    intro since isPrefix
    rw [← run_append]
    exact bound since isPrefix

/-- A client moves to a second connection, another client takes that one over, and both
connections end. -/
def takeover : List BindingCall :=
  [.register ⟨"u1"⟩ ⟨⟨"c1"⟩, "first"⟩ "a", .register ⟨"u1"⟩ ⟨⟨"c2"⟩, "second"⟩ "b",
    .register ⟨"u2"⟩ ⟨⟨"c2"⟩, "second"⟩ "", .deregister ⟨⟨"c1"⟩, "first"⟩,
    .deregister ⟨⟨"c2"⟩, "second"⟩]

theorem takeover_accounted :
    DistinctIds takeover ∧ Accounted {} (.fixed 0) takeover ∧
      closings (.new {} (.fixed 0)) takeover =
        [⟨⟨"c1"⟩, "first"⟩, ⟨⟨"c1"⟩, "first"⟩, ⟨⟨"c2"⟩, "second"⟩] :=
  ⟨by decide, closings_accounted {} (.fixed 0) (by decide), by decide +kernel⟩

end BindingCall

end SocketGateway
