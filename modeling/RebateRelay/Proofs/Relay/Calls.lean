import RebateRelay.Proofs.Chain.TransferData
import RebateRelay.Proofs.Chain.Wire
import RebateRelay.Proofs.Rebate.Accuracy
import RebateRelay.Proofs.Relay.BatchEffect

/-!
# What is submitted is what was worked out

Whatever happens to a till, a payment that is handed to the submitter is the one that was ordered
for its record. The call that makes it is a transfer of the payout token, on the payout chain, of
the amount that was worked out to the address that the record names. The call is what is signed:
nothing is lost in its data, and nothing on the wire.
-/

namespace RebateRelay

open Chain

namespace Batch

variable {α : Type} {m : Paymaster α} {l l' : Ledger} {b : Batch} {input : Input}
variable {exchanges : List Exchange} {course : Course}

/-- What a step submits has been ordered. -/
theorem Goes.order_of_submit (goes : Goes m l b input exchanges l' course) {r : Record}
    {payment : Payment} (submitted : .submit r payment ∈ exchanges) :
    m.order r = .ok (.pay payment) := by
  cases goes with
  | submits payment' phase order =>
      simp only [List.mem_cons, reduceCtorEq, Exchange.submit.injEq, List.not_mem_nil, or_false,
        false_or] at submitted
      obtain ⟨rfl, rfl⟩ := submitted
      exact order
  | _ => simp at submitted

end Batch

namespace Trace

variable {α : Type} [Reckoning α] {m : Paymaster α} {t : Trace α}

/-- What has been submitted so far was ordered. -/
def Ordered (m : Paymaster α) (t : Trace α) : Prop :=
  ∀ r payment, .submit r payment ∈ t.exchanges → m.order r = .ok (.pay payment)

theorem Ordered.after (ordered : t.Ordered m) (move : Till.Move) : (t.after m move).Ordered m := by
  intro r payment submitted
  match move with
  | .start _ | .insert _ (some _) | .insert _ none => exact ordered r payment submitted
  | .proceed now input =>
      cases batch : t.till.batch with
      | none =>
          rw [after_proceed_of_idle batch] at submitted
          exact ordered r payment submitted
      | some b =>
          obtain ⟨course, goes, -⟩ := Till.goes_step m now batch input
          rcases List.mem_append.mp submitted with before | new
          · exact ordered r payment before
          · exact goes.order_of_submit new

theorem Ordered.run (ordered : t.Ordered m) (moves : List Till.Move) :
    (t.run m moves).Ordered m := by
  induction moves generalizing t with
  | nil => exact ordered
  | cons move moves ih => exact ih (ordered.after move)

end Trace

namespace Payment

/-- A call is built for identities of the token's chain, and it is the transfer that was prepared.
-/
theorem build_eq_ok {payment : Payment} {transactor : Transactor} {tx : Transaction} :
    payment.build transactor = .ok tx ↔
      transactor.chainId = payment.token.client.chainId ∧
      tx = ⟨payment.token.client.chainId, payment.token.address, 0,
        Erc20.transferData payment.recipient payment.payout.amount⟩ := by
  unfold build Erc20.transfer
  split
  case isTrue same => simp [same, eq_comm]
  case isFalse other => simp [other]

end Payment

namespace Chain.Submitter

theorem readNonce_ne_build (request : Http.Request) (response : Http.Response) (reason : String) :
    readNonce request response ≠ .error (.build reason) := by
  unfold readNonce
  split
  · split <;> simp
  · simp

/-- Where a call can be built, what fails is not its building. -/
theorem submit_ne_build {s : Submitter} {sender : Http.Sender} {chainId : UInt64}
    {build : Transactor → Except ChainError Transaction} {tx : Transaction}
    (built : build ⟨chainId⟩ = .ok tx) (reason : String) :
    s.submit sender chainId build ≠ .error (.build reason) := by
  cases made : s.submitRequest tx with
  | error fault => simp [submit, built, made, bind, Except.bind]
  | ok request =>
      rw [submit_of_built built made]
      cases sender request with
      | none => simp
      | some response => exact readNonce_ne_build request response reason

end Chain.Submitter

/-- A call moves an amount of the token that a paymaster pays in to a recipient, on the chain that
it pays on, and does nothing else. Its data says so, and its wire form is read back as the call. -/
structure Chain.Transaction.Pays {α : Type} (tx : Transaction) (m : Paymaster α)
    (recipient : Address) (amount : ℕ) : Prop where
  chainId : tx.chainId = m.chainId
  contract : tx.contract = m.token
  value : tx.value = 0
  length : tx.data.length = 68
  data : tx.data = [0xA9, 0x05, 0x9C, 0xBB] ++ (List.replicate 12 0 ++ recipient.bytes) ++
    Erc20.bigEndian 32 amount
  decoded : Erc20.readTransferData? tx.data = some (recipient, amount)
  wire : (Json.parse? tx.toJson.text).bind Transaction.ofJson? = some tx

theorem Chain.Transaction.pays_transfer {α : Type} (m : Paymaster α) (recipient : Address)
    {amount : ℕ} (small : amount < Erc20.wordBound) :
    (⟨m.chainId, m.token, 0, Erc20.transferData recipient amount⟩ : Transaction).Pays m recipient
      amount where
  chainId := rfl
  contract := rfl
  value := rfl
  length := Erc20.length_transferData recipient amount
  data := rfl
  decoded := Erc20.readTransferData?_transferData recipient small
  wire := Transaction.parse?_text_toJson (Number.twoTo_pos 256)

namespace Trace

variable {α : Type} [Reckoning α]

/-- What is submitted is what was worked out, from any state of a till and whatever happens to it.
A payment that is handed over for a record has the payout of the record and goes to the record's
address. The call that makes it says so, for a transactor of the payout chain or whenever clients
are clients of the chain that was asked for. It is handed over in the request that is made of this
call, and the number of the payment is read from the response. With such clients a call can always
be built. The data of a transfer determines its recipient and amount, and what is sent to the
submitter is read back as the call. -/
theorem submitted_calls_are_computed (m : Paymaster α) (till : Till α)
    (moves : List Till.Move) :
    (∀ r payment, .submit r payment ∈ ((⟨till, [], []⟩ : Trace α).run m moves).exchanges →
      ∃ payout recipient, Payout.calculate r m.rates = .ok payout ∧
        parseAddress r.address = .ok recipient ∧
        (∀ transactor tx, transactor.chainId = m.chainId ∨ m.clients.IsFaithful →
          payment.build transactor = .ok tx → tx.Pays m recipient payout.amount) ∧
        (∀ (s : Submitter) tx request, payment.build ⟨m.chainId⟩ = .ok tx →
          s.submitRequest tx = .ok request →
          ∀ sender, s.submit sender m.chainId payment.build = match sender request with
            | some response => Submitter.readNonce request response
            | none => .error (.submit (Http.Fault.unanswered request.url).message)) ∧
        (m.clients.IsFaithful →
          (∃ tx, payment.build ⟨m.chainId⟩ = .ok tx) ∧
          ∀ (s : Submitter) sender reason,
            s.submit sender m.chainId payment.build ≠ .error (.build reason))) ∧
    (∀ recipient recipient' amount amount', amount < Erc20.wordBound → amount' < Erc20.wordBound →
      Erc20.transferData recipient amount = Erc20.transferData recipient' amount' →
      recipient = recipient' ∧ amount = amount') ∧
    (∀ recipient amount, amount < Erc20.wordBound →
      Erc20.readTransferData? (Erc20.transferData recipient amount) = some (recipient, amount)) ∧
    ∀ (s : Submitter) tx request, tx.value < Transaction.valueBound →
      s.submitRequest tx = .ok request →
      ∃ body, request.body = some body ∧
        (Json.parse? body.text).bind Transaction.ofJson? = some tx := by
  have none : Ordered m (⟨till, [], []⟩ : Trace α) := fun r payment inside => by cases inside
  refine ⟨fun r payment submitted => ?_, fun _ _ _ _ => Erc20.transferData_injective,
    fun recipient _ => Erc20.readTransferData?_transferData recipient,
    fun s tx request small made =>
      ⟨_, Submitter.body_of_submitRequest made, Transaction.parse?_text_toJson small⟩⟩
  obtain ⟨payout, client, recipient, calculated, served, parsed, rfl⟩ :=
    Paymaster.prepared_of_order (none.run moves r payment submitted)
  obtain ⟨stages, lead⟩ := Payout.exists_stages calculated
  have small : payout.amount < Erc20.wordBound := lead.inside.trans (by decide)
  refine ⟨payout, recipient, calculated, parsed, fun transactor tx right built => ?_,
    fun s tx request => Submitter.submit_of_built, fun faithful => ?_⟩
  · obtain ⟨same, rfl⟩ := Payment.build_eq_ok.mp built
    have chain : client.chainId = m.chainId := by
      rcases right with asked | faithful
      · exact same.symm.trans asked
      · exact faithful _ _ served
    rw [chain]
    exact Transaction.pays_transfer m recipient small
  · have chain := faithful _ _ served
    have built : (⟨r, payout, ⟨m.token, client⟩, recipient⟩ : Payment).build ⟨m.chainId⟩ =
        .ok ⟨client.chainId, m.token, 0, Erc20.transferData recipient payout.amount⟩ :=
      Payment.build_eq_ok.mpr ⟨chain.symm, rfl⟩
    exact ⟨⟨_, built⟩, fun s sender => Submitter.submit_ne_build built⟩

/-- A batch over one record, up to its submission to a service that replies. -/
theorem submitted_calls_are_computed_of_one_record :
    let m := Paymaster.sample
    let signer : Submitter := ⟨"http://[::1]"⟩
    let r := Record.sample "0x02" 1000
    let till : Till Float := ⟨.run .empty [.insert [r]], m.limiter.full .zero, none⟩
    let moves : List Till.Move := [.start none, .proceed .zero .token]
    m.clients.IsFaithful ∧ ∃ payment payout recipient tx request,
      .submit r payment ∈ ((⟨till, [], []⟩ : Trace Float).run m moves).exchanges ∧
      Payout.calculate r m.rates = .ok payout ∧
      payment.build ⟨m.chainId⟩ = .ok tx ∧ tx.Pays m recipient payout.amount ∧
      signer.submitRequest tx = .ok request ∧
      signer.submit (fun _ => some (Submitter.reply 7)) m.chainId payment.build = .ok 7 := by
  intro m signer r till moves
  have faithful : m.clients.IsFaithful := Clients.isFaithful_factory _
  have unpaid : (Ledger.empty.run [.insert [r]]).unpaid = [r] := by
    have records : (Ledger.empty.run [.insert [r]]).records.toList = [r] :=
      (Ledger.indexed_empty.insert _).2
    rw [Ledger.unpaid, records]
    exact List.mergeSort_of_pairwise (by decide +kernel)
  have first : (m.limiter.reserve till.bucket .zero).2 = .zero := by decide +kernel
  obtain ⟨payment, ordered⟩ : ∃ payment, m.order r = .ok (.pay payment) :=
    Paymaster.exists_order_sample
  have submitted : .submit r payment ∈ ((⟨till, [], []⟩ : Trace Float).run m moves).exchanges := by
    simp [moves, Trace.run, Trace.after, Till.start, till, unpaid, Batch.begin, Till.step,
      Till.takeToken, first, Batch.granted, ordered, Till.follow, Till.exchanged, Till.heard,
      Till.handed, Batch.submission?]
  obtain ⟨payout, recipient, calculated, parsed, pays, hands, builds⟩ :=
    (submitted_calls_are_computed m till moves).1 r payment submitted
  obtain ⟨⟨tx, built⟩, -⟩ := builds faithful
  obtain ⟨request, made⟩ : ∃ request, signer.submitRequest tx = .ok request := by
    refine exists_eq_ok ?_
    rw [signer.isOk_submitRequest tx ⟨42161, .zero, 0, []⟩]
    decide +kernel
  have taken :
      signer.submit (fun _ => some (Submitter.reply 7)) m.chainId payment.build = .ok 7 := by
    rw [hands signer tx request built made]
    exact Submitter.readNonce_reply request 7
  exact ⟨faithful, payment, payout, recipient, tx, request, submitted, calculated, built,
    pays ⟨m.chainId⟩ tx (Or.inl rfl) built, made, taken⟩

end Trace

end RebateRelay
