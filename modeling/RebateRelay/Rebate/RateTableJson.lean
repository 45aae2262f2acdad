import RebateRelay.Json.Decode
import RebateRelay.Rebate.RateTable

/-!
# The rate table as JSON

The table is a nested object, as in
`{"42161": {"SynapseBridge": {"USDC": {"rebate": 6}}}}`. A name that repeats keeps its last value.
-/

namespace RebateRelay

namespace TokenRate

/-- Reads the rates of a token; the fee may be left out. -/
def ofJson? (j : Json) : Option TokenRate := do
  let m ← Json.Members.ofJson? ["rebate", "fee"] j
  let rebate ← m.required "rebate" Json.uint32?
  let fee ← m.withDefault "fee" 0 Json.uint32?
  return ⟨rebate, fee⟩

end TokenRate

namespace RateTable

/-- Reads the rates of a module. -/
def moduleOfJson? (j : Json) : Option ModuleRates :=
  (Json.members? Json.textName? TokenRate.ofJson? j).map fun entries =>
    entries.foldl (fun rates (token, rate) => rates.insert token rate) .empty

/-- Reads the rates of a chain. -/
def chainOfJson? (j : Json) : Option ChainRates :=
  (Json.members? Json.textName? moduleOfJson? j).map fun entries =>
    entries.foldl (fun rates (module, tokens) => rates.insert module tokens) .empty

/-- Reads a table. -/
def ofJson? (j : Json) : Option RateTable :=
  (Json.members? Json.uint64Name? chainOfJson? j).map fun entries =>
    ⟨entries.foldl (fun rates (chainId, modules) => rates.insert chainId modules) .empty⟩

/-- Reads the text of a table. -/
def parse? (text : String) : Option RateTable := Json.parse? text >>= ofJson?

end RateTable

end RebateRelay
