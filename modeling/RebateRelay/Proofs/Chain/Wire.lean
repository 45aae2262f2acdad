import RebateRelay.Chain.Submitter
import RebateRelay.Proofs.Chain.AddressText
import RebateRelay.Proofs.Json.RoundTrip
import RebateRelay.Proofs.Result

/-!
# Calls on the wire

A call goes to the submitter as a text. The text is read back as the same call, so nothing of a call
is lost or changed on the way: not the chain, not the contract, not a byte of the data. Handing a
call over is one exchange: the request that is made of the call, and the response to it, from which
the number of the call is read.
-/

namespace RebateRelay.Chain

namespace Transaction

theorem bytesOfHexText?_hexText (bytes : List UInt8) :
    bytesOfHexText? (hexText bytes) = some bytes := by
  rw [bytesOfHexText?, hexText, String.toList_ofList]
  exact Text.Hex.decode?_encode bytes

variable {tx : Transaction}

theorem wellFormed_toJson (tx : Transaction) : tx.toJson.WellFormed := by
  refine Json.wellFormed_ofMembers fun m inside => ?_
  simp only [List.mem_cons, List.not_mem_nil, or_false] at inside
  rcases inside with rfl | rfl | rfl | rfl
  · exact Json.wellFormed_ofNat _
  · exact Json.wellFormed_ofString _
  · exact Json.wellFormed_ofString _
  · exact Json.wellFormed_ofString _

theorem membersOfJson?_toJson (tx : Transaction) :
    Json.Members.ofJson? ["chain_id", "to", "value", "data"] tx.toJson = some ⟨false, [
      ("data", .ofString (hexText tx.data)), ("value", .ofString (toString tx.value)),
      ("to", .ofString tx.contract.checksummed), ("chain_id", .ofNat tx.chainId.toNat)]⟩ :=
  Json.Members.ofJson?_ofMembers (by simp) (by simp)

/-- A call is read back from its wire form. -/
theorem ofJson?_toJson (small : tx.value < valueBound) : ofJson? tx.toJson = some tx := by
  have value : Number.readUnsigned valueBound (Nat.toDigits 10 tx.value) = .ok tx.value :=
    Number.readUnsigned_decimalDigits small
  simp [ofJson?, membersOfJson?_toJson, Json.Members.required, List.lookup_cons, Json.uint64?_ofNat,
    Json.string?_ofString, Address.parse_checksummed, value, bytesOfHexText?_hexText,
    Except.toOption]

/-- The text of a call is read back as the call. -/
theorem parse?_text_toJson (small : tx.value < valueBound) :
    (Json.parse? tx.toJson.text).bind ofJson? = some tx := by
  rw [(wellFormed_toJson tx).parse?_text, Option.bind_some, ofJson?_toJson small]

end Transaction

namespace Submitter

/-- A request to hand over a call has the call's wire form as its body. -/
theorem body_of_submitRequest {s : Submitter} {tx : Transaction} {request : Http.Request}
    (made : s.submitRequest tx = .ok request) : request.body = some tx.toJson := by
  unfold submitRequest Http.Request.make at made
  split at made
  case h_1 => cases made
  case h_2 =>
    simp only at made
    split_ifs at made
    cases made
    rfl

/-- A call that has been built is handed over in the request that is made of it, and whether it was
taken is read from the response to that request. -/
theorem submit_of_built {s : Submitter} {chainId : UInt64}
    {build : Transactor → Except ChainError Transaction} {tx : Transaction}
    {request : Http.Request} (built : build ⟨chainId⟩ = .ok tx)
    (made : s.submitRequest tx = .ok request) (sender : Http.Sender) :
    s.submit sender chainId build = match sender request with
      | some response => readNonce request response
      | none => .error (.submit (Http.Fault.unanswered request.url).message) := by
  simp only [submit, built, made, bind, Except.bind, mapError_ok, Http.Request.send]
  cases sender request <;> rfl

/-- Whether a request can be made of a call is up to the address of the service. -/
theorem isOk_submitRequest (s : Submitter) (tx tx' : Transaction) :
    (s.submitRequest tx).isOk = (s.submitRequest tx').isOk := by
  unfold submitRequest Http.Request.make
  split
  · rfl
  · simp only
    split_ifs <;> rfl

/-- A reply that carries a number. -/
def reply (nonce : UInt64) : Http.Response :=
  ⟨⟨200⟩, (Json.ofMembers [("nonce", .ofNat nonce.toNat)]).text, true⟩

theorem json?_reply (nonce : UInt64) :
    (reply nonce).json? = some (.ofMembers [("nonce", .ofNat nonce.toNat)]) := by
  apply Json.WellFormed.parse?_text
  apply Json.wellFormed_ofMembers
  intro m listed
  obtain rfl := List.mem_singleton.mp listed
  exact Json.wellFormed_ofNat nonce.toNat

/-- The number that a reply carries is read from it. -/
theorem readNonce_reply (request : Http.Request) (nonce : UInt64) :
    readNonce request (reply nonce) = .ok nonce := by
  have read : nonceOfJson? (.ofMembers [("nonce", .ofNat nonce.toNat)]) = some nonce := by
    have found : Json.Members.ofJson? ["nonce"] (.ofMembers [("nonce", .ofNat nonce.toNat)]) =
        some ⟨false, [("nonce", .ofNat nonce.toNat)]⟩ :=
      Json.Members.ofJson?_ofMembers (by simp) (by simp)
    simp [nonceOfJson?, found, Json.Members.required, Json.uint64?_ofNat]
  have taken : (reply nonce).status.isSuccess = true := rfl
  simp only [readNonce, taken, if_true, json?_reply, bind, Option.bind_some, read]

/-- Every number of 64 bits can come back for a call. -/
theorem submit_of_reply {s : Submitter} {chainId : UInt64}
    {build : Transactor → Except ChainError Transaction} {tx : Transaction}
    {request : Http.Request} (built : build ⟨chainId⟩ = .ok tx)
    (made : s.submitRequest tx = .ok request) (nonce : UInt64) :
    s.submit (fun _ => some (reply nonce)) chainId build = .ok nonce := by
  rw [submit_of_built built made]
  exact readNonce_reply request nonce

end Submitter

end RebateRelay.Chain
