import RebateRelay.Error
import Std.Data.TreeMap

/-!
# Endpoints of chains

A client is the endpoint of one chain. The endpoints are configured up front; a chain without one
is not served. Whoever needs a client asks a factory for it, of which the configured endpoints are
one kind.
-/

namespace RebateRelay.Chain

/-- The endpoint of a chain. -/
structure Client where
  chainId : UInt64
  endpoint : String
  deriving DecidableEq, Repr

/-- The configured endpoints, by chain. -/
structure Clients where
  endpoints : Std.TreeMap UInt64 String

namespace Clients

/-- No chain is served. -/
def empty : Clients := ⟨.empty⟩

/-- The endpoints of a list; a chain that repeats keeps its last one. -/
def ofList (pairs : List (UInt64 × String)) : Clients :=
  ⟨pairs.foldl (fun endpoints (chainId, url) => endpoints.insert chainId url) .empty⟩

/-- The chain has an endpoint. -/
def serves (clients : Clients) (chainId : UInt64) : Bool := clients.endpoints.contains chainId

/-- The client of a chain. -/
def client (clients : Clients) (chainId : UInt64) : Except ChainError Client :=
  match clients.endpoints[chainId]? with
  | some endpoint => .ok ⟨chainId, endpoint⟩
  | none => .error (.clientUnavailable chainId)

end Clients

/-- A way to come by the client of a chain. -/
structure ClientFactory where
  client : UInt64 → Except ChainError Client

/-- The clients of the configured endpoints. -/
def Clients.factory (clients : Clients) : ClientFactory := ⟨clients.client⟩

/-- What is handed out for a chain is a client of that chain. -/
def ClientFactory.IsFaithful (factory : ClientFactory) : Prop :=
  ∀ chainId client, factory.client chainId = .ok client → client.chainId = chainId

theorem Clients.isFaithful_factory (clients : Clients) : clients.factory.IsFaithful := by
  intro chainId client found
  simp only [factory, Clients.client] at found
  split at found
  · cases found
    rfl
  · cases found

end RebateRelay.Chain
