import RebateRelay.Chain.Client
import RebateRelay.Number.Unsigned
import RebateRelay.Text.Blank
import RebateRelay.Text.Split

/-!
# The list of endpoints

Pairs of a chain and the address of its endpoint, as in `1=one, 10=two`. Blanks
around a pair, a chain or an address do not count, and empty pairs are passed over. An address may
hold further equals signs.
-/

namespace RebateRelay.Endpoints

/-- Reads one pair. -/
def pair? (segment : List Char) : Option (UInt64 × String) := do
  let (chain, url) ← Text.splitOnce? '=' segment
  let chainId ← (Number.readUnsigned UInt64.size (Text.trimChars chain)).toOption
  let url := Text.trimChars url
  if url.isEmpty then none else some (UInt64.ofNat chainId, String.ofList url)

/-- The pairs of a list as they are written, without blanks around them and without empty ones. -/
def segments (text : String) : List (List Char) :=
  ((Text.splitOn ',' text.toList).map Text.trimChars).filter fun segment => !segment.isEmpty

/-- Reads all pairs, or gives the first that cannot be read. -/
def pairs : List (List Char) → Except String (List (UInt64 × String))
  | [] => .ok []
  | segment :: rest =>
    match pair? segment with
    | none => .error (String.ofList segment)
    | some pair => (pairs rest).map (pair :: ·)

/-- Reads a list of endpoints; a chain that repeats keeps its last one. -/
def parse (text : String) : Except ConfigError Chain.Clients :=
  match pairs (segments text) with
  | .ok found => .ok (.ofList found)
  | .error segment =>
    .error (.invalid "RPC_URLS" ("expected chain=url, got " ++ Text.quote segment))

end RebateRelay.Endpoints
