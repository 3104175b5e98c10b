import StakingGateway.Gateway.Account
import StakingGateway.Proofs.Gateway.Construction
import StakingGateway.Proofs.Stateful

/-!
# Balances of a growing chain

A balance takes a question about the account, one about the block and, for the escrow, two about
delegations.  All are asked at the height of the request, and the chain may grow between them.  If
the request names a height then every answer is of that height.  If it leaves the height open then
each answer is of the block that is the latest by then, and the block that is named with the balance
may be newer than the account that was read.
-/

namespace StakingGateway

open Api

structure Chain where
  block : Int64 → BlockHeader
  block_height : ∀ height, (block height).height = height
  account : Int64 → Address → Staking.Account
  delegations : Int64 → Address → Staking.Delegations
  debondingDelegations : Int64 → Address → Staking.DebondingDelegations

def balanceResponse (escrow : Bool) (block : BlockHeader) (account : Staking.Account)
    (delegations : Staking.Delegations) (debonding : Staking.DebondingDelegations) :
    AccountBalanceResponse where
  blockIdentifier := ⟨block.height, block.hash.text⟩
  balances :=
    if escrow then [(account.escrow.active.balance.add account.escrow.debonding.balance).toAmount
      false]
    else [account.general.balance.toAmount false]
  metadata :=
    if escrow then some (escrowMetadata account delegations debonding)
    else some (nonceMetadata account.general.nonce)

/-- The balance of an account as it stands at a height, with the block of that height. -/
def Chain.balance (chain : Chain) (escrow : Bool) (owner : Address) (height : Int64) :
    AccountBalanceResponse :=
  balanceResponse escrow (chain.block height) (chain.account height owner)
    (chain.delegations height owner) (chain.debondingDelegations height owner)

/-- A chain that is questioned while it grows: the height of its latest block at each question, and
the questions that are refused. -/
structure GrowingChain extends Chain where
  latest : Nat → Int64
  latest_le : ∀ question, latest question ≤ latest (question + 1)
  refusal : Nat → Option NodeError

namespace GrowingChain

/-- The height that a question is answered for. -/
def heightAt (chain : GrowingChain) (height : Int64) (question : Nat) : Int64 :=
  if height = latestHeight then chain.latest question else height

def tell {α : Type} (chain : GrowingChain) (told : Int64 → α) (height : Int64) :
    ExceptT NodeError (StateM Nat) α :=
  ExceptT.mk fun question =>
    (match chain.refusal question with
      | some reason => .error reason
      | none => .ok (told (chain.heightAt height question)), question + 1)

def node (chain : GrowingChain) (others : Node (StateM Nat)) : Node (StateM Nat) :=
  { others with
    block := chain.tell chain.block
    account height owner := chain.tell (chain.account · owner) height
    delegations height owner := chain.tell (chain.delegations · owner) height
    debondingDelegations height owner := chain.tell (chain.debondingDelegations · owner) height }

section

variable (chain : GrowingChain) (others : Node (StateM Nat)) (height : Int64) (owner : Address)

@[simp]
theorem node_block : (chain.node others).block height = chain.tell chain.block height :=
  rfl

@[simp]
theorem node_account :
    (chain.node others).account height owner = chain.tell (chain.account · owner) height :=
  rfl

@[simp]
theorem node_delegations :
    (chain.node others).delegations height owner = chain.tell (chain.delegations · owner) height :=
  rfl

@[simp]
theorem node_debondingDelegations :
    (chain.node others).debondingDelegations height owner =
      chain.tell (chain.debondingDelegations · owner) height :=
  rfl

end

theorem latest_mono (chain : GrowingChain) {first last : Nat} (h : first ≤ last) :
    chain.latest first ≤ chain.latest last := by
  induction h with
  | refl => exact Int64.le_refl _
  | step _ ih => exact Int64.le_trans ih (chain.latest_le _)

theorem heightAt_le (chain : GrowingChain) (height : Int64) (question : Nat) :
    chain.heightAt height question ≤ chain.heightAt height (question + 1) := by
  rw [heightAt, heightAt]
  split
  · exact chain.latest_le question
  · exact Int64.le_refl height

/-- Questions in between are answered for one height if it is named, or if the latest block is the
same at both ends. -/
theorem heightAt_eq {chain : GrowingChain} {height : Int64} {first last question : Nat}
    (h : height ≠ latestHeight ∨ chain.latest first = chain.latest last) (hfirst : first ≤ question)
    (hlast : question ≤ last) : chain.heightAt height question = chain.heightAt height first := by
  rw [heightAt, heightAt]
  split
  next hlatest =>
    have hsame := h.resolve_left (not_not_intro hlatest)
    exact Int64.le_antisymm (hsame ▸ chain.latest_mono hlast) (chain.latest_mono hfirst)
  next => rfl

theorem succeeds_tell_iff {α : Type} {chain : GrowingChain} {told : Int64 → α} {height : Int64}
    {question next : Nat} {a : α} :
    Succeeds (chain.tell told height) question a next ↔
      chain.refusal question = none ∧ told (chain.heightAt height question) = a ∧
        question + 1 = next := by
  rw [Succeeds]
  change (some (match chain.refusal question with
    | some reason => Except.error reason
    | none => .ok (told (chain.heightAt height question))), question + 1) = _ ↔ _
  rw [Prod.mk.injEq, Option.some.injEq]
  split
  next reason hrefused => simp [hrefused]
  next htold => simp [htold]

end GrowingChain

theorem succeeds_accountBalance_iff {m : Type → Type} [Monad m] {σ : Type} [Stateful m σ]
    {node : Node m} {request : AccountBalanceRequest} {response : AccountBalanceResponse}
    {s s' : σ} :
    Succeeds (Gateway.accountBalance (.online node) request) s response s' ↔
      ∃ chainId t height owner escrow,
        Succeeds ((Gateway.online node).checkNetwork request.networkIdentifier) s chainId t ∧
        requestedHeight request.blockIdentifier = .ok height ∧
        Input.address request.accountIdentifier.address = .ok owner ∧
        asksForEscrow request.accountIdentifier = .ok escrow ∧
        ∃ account t₁ block t₂, Succeeds (node.account height owner) t account t₁ ∧
          Succeeds (node.block height) t₁ block t₂ ∧
          if escrow then
            ∃ delegations t₃ debonding, Succeeds (node.delegations height owner) t₂ delegations t₃ ∧
              Succeeds (node.debondingDelegations height owner) t₃ debonding s' ∧
              balanceResponse true block account delegations debonding = response
          else balanceResponse false block account .empty .empty = response ∧ t₂ = s' := by
  simp only [Gateway.accountBalance, Gateway.node, succeeds_bind_iff, succeeds_pure_iff,
    Handler.succeeds_of_iff, Handler.succeeds_ask_iff]
  constructor
  · rintro ⟨_, _, ⟨rfl, rfl⟩, chainId, t, hnetwork, height, _, ⟨hheight, rfl⟩, owner, _,
      ⟨howner, rfl⟩, escrow, _, ⟨hescrow, rfl⟩, account, t₁, haccount, block, t₂, hblock, h⟩
    refine ⟨chainId, t, height, owner, escrow, hnetwork, hheight, howner, hescrow, account, t₁,
      block, t₂, haccount, hblock, ?_⟩
    cases escrow with
    | false => exact succeeds_pure_iff.mp h
    | true =>
        simp only [if_true, succeeds_bind_iff, succeeds_pure_iff, Handler.succeeds_ask_iff] at h ⊢
        obtain ⟨delegations, t₃, hdelegations, debonding, _, hdebonding, hresponse, rfl⟩ := h
        exact ⟨delegations, t₃, debonding, hdelegations, hdebonding, hresponse⟩
  · rintro ⟨chainId, t, height, owner, escrow, hnetwork, hheight, howner, hescrow, account, t₁,
      block, t₂, haccount, hblock, h⟩
    refine ⟨_, _, ⟨rfl, rfl⟩, chainId, t, hnetwork, height, _, ⟨hheight, rfl⟩, owner, _,
      ⟨howner, rfl⟩, escrow, _, ⟨hescrow, rfl⟩, account, t₁, haccount, block, t₂, hblock, ?_⟩
    cases escrow with
    | false => exact succeeds_pure_iff.mpr h
    | true =>
        simp only [if_true, succeeds_bind_iff, succeeds_pure_iff, Handler.succeeds_ask_iff] at h ⊢
        obtain ⟨delegations, t₃, debonding, hdelegations, hdebonding, hresponse⟩ := h
        exact ⟨delegations, t₃, hdelegations, debonding, _, hdebonding, hresponse, rfl⟩

/-- How the balance that a request asks for is told: by questions in a row, the first about the
account, the next about the block.  The account is read at no greater height than that of the block.
All is read at the height of the block if the request names a height, or if the latest block is the
same at the first question and at the last. -/
structure GrowingChain.Tells (chain : GrowingChain) (request : AccountBalanceRequest)
    (response : AccountBalanceResponse) (first finish : Nat) (height : Int64) (owner : Address)
    (escrow : Bool) : Prop where
  requestedHeight_eq : requestedHeight request.blockIdentifier = .ok height
  address_eq : Input.address request.accountIdentifier.address = .ok owner
  asksForEscrow_eq : asksForEscrow request.accountIdentifier = .ok escrow
  finish_eq : finish = if escrow then first + 4 else first + 2
  response_eq : response =
    balanceResponse escrow (chain.block (chain.heightAt height (first + 1)))
      (chain.account (chain.heightAt height first) owner)
      (chain.delegations (chain.heightAt height (first + 2)) owner)
      (chain.debondingDelegations (chain.heightAt height (first + 3)) owner)
  account_le : chain.heightAt height first ≤ response.blockIdentifier.index
  eq_balance : height ≠ latestHeight ∨ chain.latest first = chain.latest (finish - 1) →
    response = chain.balance escrow owner response.blockIdentifier.index

/-- Every balance is told so. -/
theorem tells_of_accountBalance (chain : GrowingChain) (others : Node (StateM Nat))
    {request : AccountBalanceRequest} {response : AccountBalanceResponse} {start finish : Nat}
    (h : Succeeds (Gateway.accountBalance (.online (chain.node others)) request) start response
      finish) :
    ∃ first height owner escrow, chain.Tells request response first finish height owner escrow := by
  simp only [succeeds_accountBalance_iff, GrowingChain.node_block, GrowingChain.node_account,
    GrowingChain.node_delegations, GrowingChain.node_debondingDelegations,
    GrowingChain.succeeds_tell_iff] at h
  obtain ⟨chainId, first, height, owner, escrow, -, hheight, howner, hescrow, _, _, _, _,
    ⟨-, rfl, rfl⟩, ⟨-, rfl, rfl⟩, h⟩ := h
  have htold : finish = (if escrow then first + 4 else first + 2) ∧
      response = balanceResponse escrow (chain.block (chain.heightAt height (first + 1)))
        (chain.account (chain.heightAt height first) owner)
        (chain.delegations (chain.heightAt height (first + 2)) owner)
        (chain.debondingDelegations (chain.heightAt height (first + 3)) owner) := by
    cases escrow with
    | false => exact ⟨h.2.symm, h.1.symm⟩
    | true =>
        obtain ⟨_, _, _, ⟨-, rfl, rfl⟩, ⟨-, rfl, rfl⟩, rfl⟩ := h
        exact ⟨rfl, rfl⟩
  obtain ⟨hfinish, hresponse⟩ := htold
  have hindex : response.blockIdentifier.index = chain.heightAt height (first + 1) := by
    rw [hresponse]
    exact chain.block_height _
  refine ⟨first, height, owner, escrow, hheight, howner, hescrow, hfinish, hresponse, ?_, ?_⟩
  · rw [hindex]
    exact chain.heightAt_le height first
  · intro hstands
    have hsame : ∀ question, first ≤ question → question ≤ finish - 1 →
        chain.heightAt height question = chain.heightAt height first :=
      fun _ hfirst hlast => GrowingChain.heightAt_eq hstands hfirst hlast
    rw [hindex, hresponse, Chain.balance]
    cases escrow with
    | false =>
        have hlast : finish = first + 2 := hfinish
        rw [hsame (first + 1) (by omega) (by omega)]
        rfl
    | true =>
        have hlast : finish = first + 4 := hfinish
        rw [hsame (first + 1) (by omega) (by omega), hsame (first + 2) (by omega) (by omega),
          hsame (first + 3) (by omega) (by omega)]

/-- A node that tells the name of its chain and refuses all other questions. -/
def Node.nameOnly (chainId : String) : Node (StateM Nat) :=
  let refuse {α : Type} : ExceptT NodeError (StateM Nat) α := throw (.refused ⟨.unimplemented, ""⟩)
  ⟨pure chainId, fun _ => refuse, fun _ _ => refuse, fun _ _ => refuse, fun _ _ => refuse,
    fun _ => refuse, refuse, fun _ => refuse, fun _ => refuse, fun _ _ => refuse, refuse⟩

/-- A chain that gets its eleventh block after the first question.  An account holds as many tokens
as there are blocks. -/
def eleventhBlock : GrowingChain where
  block height := ⟨height, .zero, height, .zero, 0⟩
  block_height _ := rfl
  account height _ := ⟨⟨⟨height.toNatClampNeg⟩, 0⟩, .default⟩
  delegations _ _ := .empty
  debondingDelegations _ _ := .empty
  latest question := if question = 0 then 10 else 11
  latest_le question := by
    cases question with
    | zero => decide
    | succ question => exact Int64.le_refl _
  refusal _ := none

def commonPoolRequest (block : Option PartialBlockIdentifier) : AccountBalanceRequest where
  networkIdentifier := some (.of blockchain "chain")
  accountIdentifier := Address.commonPool.account
  blockIdentifier := block

theorem succeeds_eleventhBlock {block : Option PartialBlockIdentifier} {height : Int64}
    (hheight : requestedHeight block = .ok height) :
    Succeeds (Gateway.accountBalance (.online (eleventhBlock.node (.nameOnly "chain")))
      (commonPoolRequest block)) 0
      (balanceResponse false (eleventhBlock.block (eleventhBlock.heightAt height 1))
        (eleventhBlock.account (eleventhBlock.heightAt height 0) .commonPool) .empty .empty) 2 := by
  simp only [succeeds_accountBalance_iff, GrowingChain.node_block, GrowingChain.node_account,
    GrowingChain.succeeds_tell_iff]
  exact ⟨"chain", 0, height, .commonPool, false, rfl, hheight, address_text _, rfl, _, _, _,
    _, ⟨rfl, rfl, rfl⟩, ⟨rfl, rfl, rfl⟩, rfl, rfl⟩

/-- A balance at a named height, told while the chain grows. -/
theorem tells_of_accountBalance_eleventhBlock :
    ∃ response, Succeeds (Gateway.accountBalance (.online (eleventhBlock.node (.nameOnly "chain")))
        (commonPoolRequest (some ⟨some 7, none⟩))) 0 response 2 ∧
      ∃ first height owner escrow, eleventhBlock.Tells (commonPoolRequest (some ⟨some 7, none⟩))
        response first 2 height owner escrow :=
  have htold := succeeds_eleventhBlock rfl
  ⟨_, htold, tells_of_accountBalance eleventhBlock _ htold⟩

/-- If no height is named then the tokens of ten blocks are told with the eleventh. -/
theorem ne_balance_eleventhBlock :
    ∃ response, Succeeds (Gateway.accountBalance (.online (eleventhBlock.node (.nameOnly "chain")))
        (commonPoolRequest none)) 0 response 2 ∧
      response.blockIdentifier.index = 11 ∧
      response.balances = (eleventhBlock.balance false .commonPool 10).balances ∧
      response.balances ≠ (eleventhBlock.balance false .commonPool 11).balances := by
  refine ⟨_, succeeds_eleventhBlock rfl, rfl, rfl, fun h => ?_⟩
  have hvalues := congrArg (List.map Amount.value) h
  revert hvalues
  decide

end StakingGateway
