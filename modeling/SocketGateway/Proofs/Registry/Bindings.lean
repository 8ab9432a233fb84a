import Mathlib.Data.Set.Card
import SocketGateway.Proofs.Registry.Consistency

/-!
Contract: a registry shows one map, in which the last writer of a client or of a connection wins.

Owns:
- the map of bindings and what each call makes of it, without index and marks;
- that a registry represents that map after any calls;
- that everything a registry shows is read from that map.

Does not own: the order of the idle clients, or which connections are closed.
-/

namespace SocketGateway

/-- On which connection a client is, and with which option. -/
structure Binding where
  connection : Connection
  option : String
deriving DecidableEq, Repr

/-- Who is online, and how. -/
abbrev Bindings := ClientId → Option Binding

namespace Bindings

/-- Whether a client is on a connection with that id. -/
def IsOn (bindings : Bindings) (id : ClientId) (key : ConnectionId) : Prop :=
  (bindings id).map (fun binding => binding.connection.id) = some key

instance (bindings : Bindings) (id : ClientId) (key : ConnectionId) :
    Decidable (bindings.IsOn id key) :=
  inferInstanceAs (Decidable (_ = _))

/-- A client that is on the connection already stays as it is. Otherwise it is put there, and
whoever was there leaves. -/
def register (bindings : Bindings) (id : ClientId) (connection : Connection) (option : String) :
    Bindings :=
  if bindings.IsOn id connection.id then bindings
  else fun other =>
    if id = other then some ⟨connection, option⟩
    else if bindings.IsOn other connection.id then none
    else bindings other

/-- Whoever is on the connection leaves. -/
def deregister (bindings : Bindings) (key : ConnectionId) : Bindings :=
  fun other => if bindings.IsOn other key then none else bindings other

/-- Changes the option of a client that is online. -/
def setOption (bindings : Bindings) (id : ClientId) (option : String) : Bindings :=
  fun other =>
    if id = other then (bindings other).map fun binding => { binding with option := option }
    else bindings other

/-- The map after a call; idle marks do not matter to it. -/
def perform (bindings : Bindings) : RegistryCall → Bindings
  | .register id connection option _ => bindings.register id connection option
  | .deregister connection => bindings.deregister connection.id
  | .setOption id option => bindings.setOption id option
  | .idle _ _ => bindings
  | .leaveIdle _ => bindings

/-- The map after these calls on an empty one. -/
def after (calls : List RegistryCall) : Bindings := calls.foldl perform fun _ => none

theorem after_concat (calls : List RegistryCall) (call : RegistryCall) :
    after (calls ++ [call]) = (after calls).perform call := by
  simp [after]

/-- Whether a call may concern a client: by its name, or by its connection. -/
def Concerns (bindings : Bindings) (other : ClientId) : RegistryCall → Prop
  | .register id connection _ _ => id = other ∨ bindings.IsOn other connection.id
  | .deregister connection => bindings.IsOn other connection.id
  | .idle id _ => id = other
  | .leaveIdle id => id = other
  | .setOption id _ => id = other

end Bindings

namespace ClientRegistry

/-- The client that a binding stands for. -/
def clientOf (id : ClientId) (binding : Binding) : Client :=
  ⟨id, binding.option, some binding.connection⟩

/-- The clients of a registry are those of the map. -/
def Represents (registry : ClientRegistry) (bindings : Bindings) : Prop :=
  ∀ id, registry.clients[id]? = (bindings id).map (clientOf id)

namespace Represents

variable {registry : ClientRegistry} {bindings : Bindings}

theorem isOn_iff (represents : registry.Represents bindings) (id : ClientId)
    (key : ConnectionId) : registry.IsOn id key ↔ bindings.IsOn id key := by
  unfold IsOn Bindings.IsOn
  rw [represents]
  cases bindings id <;> simp [clientOf, Client.connectionId?]

theorem register (represents : registry.Represents bindings) (consistent : registry.Consistent)
    (id : ClientId) (connection : Connection) (option : String) (now : Int64) :
    (registry.register id connection option now).registry.Represents
      (bindings.register id connection option) := by
  have sameAs := represents.isOn_iff id connection.id
  by_cases same : registry.IsOn id connection.id
  · rw [register_same same, Bindings.register, if_pos (sameAs.mp same)]
    exact represents
  · have moved := (register_moved consistent same option now).2.2
    rw [Bindings.register, if_neg (mt sameAs.mpr same)]
    intro other
    rw [moved.clients]
    by_cases isClient : id = other
    · simp [isClient, clientOf]
    · simp only [isClient, if_false, represents.isOn_iff]
      split
      · rfl
      · exact represents other

theorem deregister (represents : registry.Represents bindings) (consistent : registry.Consistent)
    (connection : Connection) :
    (registry.deregister connection).registry.Represents (bindings.deregister connection.id) := by
  intro other
  rw [(deregister_departed consistent connection).clients, Bindings.deregister]
  simp only [represents.isOn_iff]
  split
  · rfl
  · exact represents other

theorem setOption (represents : registry.Represents bindings) (id : ClientId) (option : String) :
    (registry.setOption id option).2.Represents (bindings.setOption id option) := by
  intro other
  rw [clients_setOption, represents, Bindings.setOption]
  by_cases same : id = other <;> cases bindings other <;> simp [same, clientOf]

theorem perform (represents : registry.Represents bindings) (consistent : registry.Consistent)
    (call : RegistryCall) : (registry.perform call).Represents (bindings.perform call) := by
  cases call with
  | register id connection option now =>
    exact represents.register consistent id connection option now
  | deregister connection => exact represents.deregister consistent connection
  | idle id now =>
    simp only [ClientRegistry.perform, ClientRegistry.idle]
    split <;> exact represents
  | leaveIdle id => exact represents
  | setOption id option => exact represents.setOption id option

end Represents

theorem represents_after (calls : List RegistryCall) :
    (after calls).Represents (Bindings.after calls) := by
  induction calls using List.reverseRecOn with
  | nil => intro id; simp [after, Bindings.after]
  | append_singleton calls call inductionHypothesis =>
    rw [after_concat, Bindings.after_concat]
    exact inductionHypothesis.perform (consistent_after calls) call

/-! ### What a registry shows -/

/-- How many entries have an option. -/
def entriesWith (option : String) (entries : List (ClientId × Client)) : Nat :=
  entries.countP fun entry => entry.2.option = option

private theorem entriesWith_concat (option : String) (entries : List (ClientId × Client))
    (entry : ClientId × Client) :
    entriesWith option (entries ++ [entry]) =
      entriesWith option entries + if entry.2.option = option then 1 else 0 := by
  simp [entriesWith, List.countP_append, List.countP_singleton]

/-- The options are counted up entry by entry; the empty one is left out. -/
theorem tally_getElem? (entries : List (ClientId × Client)) (option : String) :
    (entries.foldl (fun counted entry =>
      if entry.2.option = "" then counted
      else counted.insert entry.2.option (counted.getD entry.2.option 0 + 1))
      (∅ : Std.TreeMap String Nat))[option]? =
      if option = "" ∨ entriesWith option entries = 0 then none
      else some (entriesWith option entries) := by
  induction entries using List.reverseRecOn generalizing option with
  | nil => simp [entriesWith]
  | append_singleton entries entry inductionHypothesis =>
    rw [List.foldl_concat, entriesWith_concat]
    by_cases empty : entry.2.option = ""
    · rw [if_pos empty, inductionHypothesis, empty]
      by_cases same : option = ""
      · simp [same]
      · simp [same, Ne.symm same]
    · rw [if_neg empty, Std.TreeMap.getElem?_insert, Std.TreeMap.getD_eq_getD_getElem?,
        inductionHypothesis, inductionHypothesis]
      by_cases same : entry.2.option = option
      · subst same
        by_cases none_before : entriesWith entry.2.option entries = 0 <;>
          simp [empty, none_before]
      · simp [same]

/-- A set of clients is counted by going through the entries. -/
theorem ncard_clients (registry : ClientRegistry) (picked : Client → Bool) :
    {id : ClientId | (registry.clients[id]?).any picked}.ncard =
      registry.clients.toList.countP fun entry => picked entry.2 := by
  let entries := registry.clients.toList.filter fun entry => picked entry.2
  have members : {id : ClientId | (registry.clients[id]?).any picked} =
      ((entries.map Prod.fst).toFinset : Set ClientId) := by
    ext id
    simp [entries, Option.any_eq_true]
  have nodup : (entries.map Prod.fst).Nodup := by
    refine List.Nodup.sublist (List.filter_sublist.map Prod.fst) ?_
    rw [Std.TreeMap.map_fst_toList_eq_keys]
    exact Std.TreeMap.nodup_keys
  rw [members, Set.ncard_coe_finset, List.toFinset_card_of_nodup nodup, List.length_map,
    List.countP_eq_length_filter]

private theorem counts_getElem? (registry : ClientRegistry) (option : String) (number : Nat) :
    registry.counts[option]? = some number ↔
      option ≠ "" ∧ 0 < number ∧
        number = {id : ClientId |
          (registry.clients[id]?).any fun client => client.option = option}.ncard := by
  rw [ncard_clients, counts, Std.TreeMap.foldl_eq_foldl_toList, tally_getElem?, ← entriesWith]
  split
  · next absent =>
    simp only [reduceCtorEq, false_iff, not_and]
    intro nonempty positive same
    have nobody := absent.resolve_left nonempty
    omega
  · next present =>
    push Not at present
    simp only [Option.some.injEq, ne_eq, present.1, not_false_eq_true, true_and]
    constructor
    · rintro rfl
      exact ⟨Nat.pos_of_ne_zero present.2, rfl⟩
    · exact fun same => same.2.symm

/-- Everything that a registry shows is read from one map. -/
structure Shows (registry : ClientRegistry) (bindings : Bindings) : Prop where
  lookup : ∀ key id, registry.lookup key = some id ↔ bindings.IsOn id key
  get : ∀ id, registry.get? id = (bindings id).map (clientOf id)
  option : ∀ id, registry.option id =
    match bindings id with
    | some binding => .ok binding.option
    | none => .error (.notFound id.text)
  clientIds : ∀ id, id ∈ registry.clientIds ↔ (bindings id).isSome
  sorted : registry.clientIds.Pairwise fun left right => left.text < right.text
  size : registry.size = {id | (bindings id).isSome}.ncard
  isEmpty : registry.isEmpty = true ↔ ∀ id, bindings id = none
  /-- Each option but the empty one is counted as often as a client has it. -/
  counts : ∀ option number, registry.counts[option]? = some number ↔
    option ≠ "" ∧ 0 < number ∧
      number = {id | ∃ binding, bindings id = some binding ∧ binding.option = option}.ncard
  /-- An event goes out once, on the client's connection, and its answer comes back. -/
  signaling : ∀ (World : Type) (transport : Transport World) (id : ClientId) (event : String)
    (data : Json) (world : World), registry.signaling transport id event data world =
      match bindings id with
      | some binding => Client.passOn (transport.emit binding.connection event data world)
      | none => (.error (.targetOffline id.text), world)

theorem Represents.shows {registry : ClientRegistry} {bindings : Bindings}
    (represents : registry.Represents bindings) (consistent : registry.Consistent) :
    registry.Shows bindings where
  lookup key id := consistent.owned.trans (represents.isOn_iff id key)
  get := represents
  option id := by
    rw [ClientRegistry.option, get?, represents]
    cases bindings id <;> rfl
  clientIds id := by
    rw [ClientRegistry.clientIds, Std.TreeMap.mem_keys, Std.TreeMap.mem_iff_isSome_getElem?,
      represents, Option.isSome_map]
  sorted := by
    refine Std.TreeMap.ordered_keys.imp ?_
    intro left right before
    have less : compareOfLessAndEq left.text right.text = .lt := before
    exact compareOfLessAndEq_eq_lt.mp less
  size := by
    have online : {id | (bindings id).isSome} =
        {id : ClientId | (registry.clients[id]?).any fun _ => true} := by
      ext id
      rw [Set.mem_ofPred_eq, Set.mem_ofPred_eq, represents]
      cases bindings id <;> simp
    rw [online, ncard_clients, List.countP_true, Std.TreeMap.length_toList, ClientRegistry.size]
  isEmpty := by
    rw [ClientRegistry.isEmpty, Std.TreeMap.isEmpty_iff_forall_not_mem]
    refine forall_congr' fun id => ?_
    rw [Std.TreeMap.mem_iff_isSome_getElem?, represents, Option.isSome_map, Bool.not_eq_true,
      Option.isSome_eq_false_iff, Option.isNone_iff_eq_none]
  counts option number := by
    have holders : {id | ∃ binding, bindings id = some binding ∧ binding.option = option} =
        {id : ClientId | (registry.clients[id]?).any fun client => client.option = option} := by
      ext id
      rw [Set.mem_ofPred_eq, Set.mem_ofPred_eq, represents]
      cases bindings id <;> simp [clientOf]
    rw [holders, counts_getElem?]
  signaling World transport id event data world := by
    cases found : bindings id with
    | none => simp [ClientRegistry.signaling, get?, represents id, found]
    | some binding =>
      have known : registry.clients[id]? = some (clientOf id binding) := by
        rw [represents, found, Option.map_some]
      obtain ⟨connection, itsConnection, sent⟩ :=
        consistent.signaling known transport event data world
      cases itsConnection
      exact sent

/-! ### Calls and their answers -/

/-- A call leaves a client alone that it does not concern, and the client's mark. -/
theorem Represents.untouched {registry : ClientRegistry} {bindings : Bindings}
    (represents : registry.Represents bindings) (consistent : registry.Consistent)
    {call : RegistryCall} {other : ClientId} (unconcerned : ¬ bindings.Concerns other call) :
    (registry.perform call).clients[other]? = registry.clients[other]? ∧
      (registry.perform call).idleMarks[other]? = registry.idleMarks[other]? := by
  cases call with
  | register id connection option now =>
    obtain ⟨notClient, notThere⟩ := not_or.mp unconcerned
    rw [← represents.isOn_iff] at notThere
    simp only [ClientRegistry.perform]
    by_cases same : registry.IsOn id connection.id
    · rw [register_same same]
      exact ⟨rfl, rfl⟩
    · have moved := (register_moved consistent same option now).2.2
      rw [moved.clients, moved.idleMarks]
      simp [notClient, notThere]
  | deregister connection =>
    have notThere : ¬ registry.IsOn other connection.id :=
      fun on => unconcerned ((represents.isOn_iff other connection.id).mp on)
    have departed := deregister_departed consistent connection
    simp only [ClientRegistry.perform]
    rw [departed.clients, departed.idleMarks, if_neg notThere, if_neg notThere]
    exact ⟨rfl, rfl⟩
  | idle id now =>
    have notClient : id ≠ other := unconcerned
    simp only [ClientRegistry.perform, ClientRegistry.idle]
    split
    · exact ⟨rfl, by rw [idleMarks_markIdle, if_neg notClient]⟩
    · exact ⟨rfl, rfl⟩
  | leaveIdle id =>
    have notClient : id ≠ other := unconcerned
    simp [ClientRegistry.perform, ClientRegistry.leaveIdle, Std.TreeMap.getElem?_erase, notClient]
  | setOption id option =>
    have notClient : id ≠ other := unconcerned
    simp only [ClientRegistry.perform]
    refine ⟨?_, by rw [setOption_eq]⟩
    rw [clients_setOption]
    simp [notClient]

private theorem Represents.departed_iff {registry : ClientRegistry} {bindings : Bindings}
    (represents : registry.Represents bindings) (consistent : registry.Consistent)
    (connection : Connection) (id : ClientId) (option : String) :
    (registry.deregister connection).departed = some (id, option) ↔
      bindings.IsOn id connection.id ∧ (bindings id).map Binding.option = some option := by
  rw [← represents.isOn_iff, ← consistent.owned]
  cases owner : registry.owners[connection.id]? with
  | none => simp [deregister_unknown owner]
  | some present =>
    obtain ⟨client, current, found, -, -, result⟩ := deregister_known consistent owner
    have itsOption : (bindings present).map Binding.option = some client.option := by
      rw [represents] at found
      obtain ⟨binding, bound, rfl⟩ := Option.map_eq_some_iff.mp found
      rw [bound]
      rfl
    rw [result]
    simp only [Option.some.injEq, Prod.mk.injEq]
    refine and_congr_right ?_
    rintro rfl
    rw [itsOption, Option.some.injEq]

/-- After any calls, a registry shows exactly the map in which the last writer of a client or of a
connection wins. The next call answers by that map, and leaves alone whom it does not concern. -/
theorem registry_shows_last_writers (calls : List RegistryCall) :
    let registry := after calls
    let bindings := Bindings.after calls
    registry.Shows bindings ∧
      (∀ id connection option now,
        (registry.register id connection option now).result = .ok ()) ∧
      (∀ connection id option, (registry.deregister connection).departed = some (id, option) ↔
        bindings.IsOn id connection.id ∧ (bindings id).map Binding.option = some option) ∧
      (∀ id option, (registry.setOption id option).1 =
        if (bindings id).isSome then .ok () else .error (.notFound id.text)) ∧
      ∀ call other, ¬ bindings.Concerns other call →
        (registry.perform call).get? other = registry.get? other ∧
          (registry.perform call).idleMarks[other]? = registry.idleMarks[other]? ∧
          ∀ key, (registry.perform call).lookup key = some other ↔
            registry.lookup key = some other := by
  intro registry bindings
  have consistent : registry.Consistent := consistent_after calls
  have represents : registry.Represents bindings := represents_after calls
  refine ⟨represents.shows consistent, ?_, represents.departed_iff consistent, ?_, ?_⟩
  · exact consistent.register_ok
  · intro id option
    rw [ClientRegistry.setOption, get?, represents]
    cases bindings id <;> rfl
  · intro call other unconcerned
    obtain ⟨sameClient, sameMark⟩ := represents.untouched consistent unconcerned
    refine ⟨sameClient, sameMark, fun key => ?_⟩
    rw [lookup, lookup, (consistent.perform call).owned, consistent.owned, IsOn, IsOn, sameClient]

end ClientRegistry

end SocketGateway
