import Std.Data.String.ToNat
import SocketGateway.HookTable
import SocketGateway.Network
import SocketGateway.Proofs.Session.Traffic
import SocketGateway.Proofs.Signaling.Handlers
import SocketGateway.Signaling.Stock

/-!
Contract: applications made of hook tables and ready-made handlers.

Owns:
- servers with such applications;
- that these act on the hub by calls on sockets only, and that a single handler closes sockets.

Does not own: other applications.
-/

namespace SocketGateway

variable {mayClose : Bool}

/-- The hooks of a table leave the hub alone. -/
theorem HookTable.confined (mayClose : Bool) (table : HookTable) :
    (table.hooks Network.note).Confined mayClose where
  authenticate := by
    intro hook installed token world
    obtain ⟨accounts, -, rfl⟩ := Option.map_eq_some_iff.mp installed
    exact .refl mayClose world.1
  connect := by
    intro hook installed id option world
    obtain ⟨refusals, -, rfl⟩ := Option.map_eq_some_iff.mp installed
    exact .refl mayClose world.1
  disconnect := by
    intro hook installed id option world
    cases farewells : table.farewells with
    | false =>
      simp [HookTable.hooks, farewells] at installed
    | true =>
      simp only [HookTable.hooks, farewells, if_true, Option.some.injEq] at installed
      rw [← installed]
      exact .refl mayClose world.1

namespace StockHandler

/-- A ready-made handler makes one call at most, and only one of them closes. -/
theorem handler_reaches (stock : StockHandler) (allowed : stock = .bye → mayClose = true)
    (connection : Connection) (id : ClientId) (data : Json) (world : Hub × Journal) :
    Hub.Reaches mayClose world.1
      (stock.handler (Hub.transport Journal) Network.note connection id data world).2.1 := by
  have answered : ∀ answer : Except TransportError Unit × (Hub × Journal),
      (respond answer).2 = answer.2 := by
    rintro ⟨_ | _, after⟩ <;> rfl
  cases stock with
  | echo | whoami | raw | fail | rooms => exact .refl mayClose world.1
  | join =>
    simp only [handler, act, answered]
    exact world.1.reaches_call (.join connection.id (textOf data)) nofun
  | leave =>
    simp only [handler, act, answered]
    exact world.1.reaches_call (.leave connection.id (textOf data)) nofun
  | emit =>
    simp only [handler, act, answered]
    exact world.1.reaches_call (.emit connection.id "from-handler" data) nofun
  | broadcast =>
    simp only [handler, act, answered]
    exact world.1.reaches_call (.broadcast connection.id (stringField "room" data)
      (stringField "event" data) ((data.field? "data").getD .null)) nofun
  | bye => exact world.1.reaches_call (.disconnect connection.id) fun _ => allowed rfl

end StockHandler

/-- Every handler was there before, or was supplied by the adaptor. -/
theorem Signaling.setAdapter_origin {World : Type} {signaling : Signaling World}
    {adaptor : Adaptor World} {event : String} {handler : Handler World}
    (found : (signaling.setAdapter adaptor).handlers[event]? = some handler) :
    signaling.handlers[event]? = some handler ∨ ∃ other, adaptor.handler? other = some handler := by
  rcases handlers_setAdapter_eq_some.mp found with supplied | ⟨before, -⟩
  · exact Or.inr ⟨event, supplied.2⟩
  · exact Or.inl before

namespace Site

/-- A server whose application is made of a table and ready-made handlers. -/
def stocked (config : Config) (table : HookTable) (listing : List (String × Option StockHandler)) :
    Site Journal where
  config := config
  clock := .fixed 0
  hooks := table.hooks Network.note
  signaling :=
    ({} : Signaling (Hub × Journal)).setAdapter
      (StockHandler.adaptor (Hub.transport Journal) Network.note listing)
  app := []
  tokens := fun number => ⟨number.repr⟩
  connections := fun number => ⟨number.repr⟩

theorem stocked_distinct (config : Config) (table : HookTable)
    (listing : List (String × Option StockHandler)) :
    Function.Injective (stocked config table listing).connections := by
  intro left right same
  exact Nat.repr_injective (ConnectionId.mk.inj same)

theorem stocked_confined (config : Config) (table : HookTable)
    (listing : List (String × Option StockHandler))
    (allowed : ∀ event, (event, some StockHandler.bye) ∈ listing → mayClose = true) :
    (stocked config table listing).Confined mayClose where
  hooks := table.confined mayClose
  handlers := by
    intro event handler found connection id data world
    rcases Signaling.setAdapter_origin found with before | ⟨other, supplied⟩
    · simp at before
    · obtain ⟨stock, listed, rfl⟩ := Option.map_eq_some_iff.mp supplied
      obtain ⟨⟨name, kind⟩, isFirst, rfl⟩ := Option.bind_eq_some_iff.mp listed
      refine stock.handler_reaches ?_ connection id data world
      rintro rfl
      exact allowed name (List.mem_reverse.mp (List.mem_of_find?_eq_some isFirst))

end Site

end SocketGateway
