import RebateRelay.Error
import Std.Data.TreeMap

/-!
# Rebate rates

The rates stand in a table by chain, module and token. A rate is a number of basis points of the
value of a transfer. A pair of chain and module that is missing is told apart from a token that is
missing in its module.
-/

namespace RebateRelay

/-- The rates of one token. -/
structure TokenRate where
  /-- The rebate in basis points. -/
  rebate : UInt32
  /-- The fee in basis points, for information only. -/
  fee : UInt32 := 0
  deriving DecidableEq, Repr

/-- The rates of one module, by token. -/
abbrev ModuleRates := Std.TreeMap String TokenRate

/-- The rates of one chain, by module. -/
abbrev ChainRates := Std.TreeMap String ModuleRates

/-- The rates by chain, module and token. -/
structure RateTable where
  chains : Std.TreeMap UInt64 ChainRates

namespace RateTable

/-- The table without rates. -/
def empty : RateTable := ⟨.empty⟩

instance : Inhabited RateTable := ⟨empty⟩

/-- The rates of a module on a chain. -/
def module? (table : RateTable) (chainId : UInt64) (module : String) : Option ModuleRates :=
  table.chains[chainId]?.bind fun modules => modules[module]?

/-- Adds a rate without a fee, in place of the one that was there. -/
def insert (table : RateTable) (chainId : UInt64) (module token : String) (rebate : UInt32) :
    RateTable :=
  let modules := table.chains.getD chainId .empty
  let tokens := modules.getD module .empty
  ⟨table.chains.insert chainId (modules.insert module (tokens.insert token ⟨rebate, 0⟩))⟩

/-- The rebate of a token in basis points. -/
def rebateBps (table : RateTable) (chainId : UInt64) (module token : String) :
    Except RebateError UInt32 :=
  match table.module? chainId module with
  | none => .error (.moduleMissing chainId module)
  | some tokens =>
    match tokens[token]? with
    | none => .error (.tokenMissing chainId module token)
    | some rate => .ok rate.rebate

/-- The sum of a list of counts. -/
def total (counts : List Nat) : Nat := counts.foldr (fun count sum => count + sum) 0

/-- The number of tokens in the table, each counted once for every chain and module. -/
def size (table : RateTable) : Nat :=
  total (table.chains.values.map fun modules => total (modules.values.map Std.TreeMap.size))

/-- The table has no rates; chains and modules without tokens may be there. -/
def isEmpty (table : RateTable) : Bool := table.size == 0

end RateTable

end RebateRelay
