import StakingGateway.Proofs.Gateway.Snapshot
import StakingGateway.Proofs.Json.Object

/-!
# What a balance in escrow tells

The metadata of a balance in escrow hold the nonce, the two share pools and the two maps of
delegations.  Quantities are texts, for they may be of any size, while a nonce or an epoch is a
number.  A map is an object with a member for every address.  Different addresses have different
texts, so no two entries fall on one member.  All of it reads back
(`EscrowReport.ofJson?_escrowMetadata`).
-/

namespace StakingGateway

open Api

namespace Json

def member? (name : String) : Json → Option Json
  | .object members => Assoc.find? name members
  | _ => none

def asQuantity? : Json → Option Quantity
  | .string text => (Quantity.ofText text).toOption
  | _ => none

def asUInt64? : Json → Option UInt64
  | .number (.integer value) =>
    if 0 ≤ value ∧ value < 0x10000000000000000 then some (UInt64.ofNat value.toNat) else none
  | _ => none

def asList? {α : Type} (read : Json → Option α) : Json → Option (List α)
  | .array items => items.mapM read
  | _ => none

/-- What is written reads back from the normal form. -/
def ReadsBack {α : Type} (write : α → Json) (read : Json → Option α) : Prop :=
  ∀ a, read (write a).normal = some a

theorem readsBack_quantity : ReadsBack quantityJson asQuantity? := by
  intro q
  change (Quantity.ofText q.text).toOption = some q
  rw [Quantity.ofText_text]
  rfl

theorem readsBack_uInt64 : ReadsBack (fun n : UInt64 => .integer n.toNat) asUInt64? := by
  intro n
  have hrange : (0 : Int) ≤ n.toNat ∧ (n.toNat : Int) < 0x10000000000000000 := by
    have hsize := n.toNat_lt
    omega
  simp only [integer, normal, asUInt64?]
  rw [if_pos hrange, Int.toNat_natCast, UInt64.ofNat_toNat]

theorem ReadsBack.list {α : Type} {write : α → Json} {read : Json → Option α}
    (h : ReadsBack write read) :
    ReadsBack (fun list : List α => .array (list.map write)) (asList? read) := by
  intro list
  rw [normal, normalItems_eq_map, List.map_map]
  exact mapM_map_of_forall h list

theorem ReadsBack.member {α : Type} {write : α → Json} {read : Json → Option α}
    (h : ReadsBack write read) {members : List (String × Json)}
    (hnodup : (members.map (·.1)).Nodup) {name : String} {a : α}
    (hmem : (name, write a) ∈ members) :
    ((Json.object members).normal.member? name).bind read = some a := by
  have hmember : (Json.object members).normal.member? name = some (write a).normal :=
    Object.find?_ofMembers hnodup hmem
  rw [hmember, Option.bind_some, h]

end Json

namespace Staking

open Json

def Delegation.ofJson? (json : Json) : Option Delegation := do
  let shares ← (json.member? "shares").bind asQuantity?
  return ⟨shares⟩

def DebondingDelegation.ofJson? (json : Json) : Option DebondingDelegation := do
  let shares ← (json.member? "shares").bind asQuantity?
  let debondEnd ← (json.member? "debond_end").bind asUInt64?
  return ⟨shares, debondEnd⟩

theorem readsBack_delegation :
    ReadsBack (fun delegation : Delegation =>
      .object [("shares", quantityJson delegation.shares)]) Delegation.ofJson? := by
  intro delegation
  rw [Delegation.ofJson?,
    readsBack_quantity.member (a := delegation.shares) (by simp) List.mem_cons_self]
  rfl

theorem readsBack_debondingDelegation :
    ReadsBack (fun delegation : DebondingDelegation =>
      .object [("shares", quantityJson delegation.shares),
        ("debond_end", .integer delegation.debondEnd.toNat)]) DebondingDelegation.ofJson? := by
  intro delegation
  have hnodup : ([("shares", quantityJson delegation.shares),
      ("debond_end", .integer delegation.debondEnd.toNat)].map (·.1)).Nodup := by
    simp
  rw [DebondingDelegation.ofJson?,
    readsBack_quantity.member (a := delegation.shares) hnodup (by simp),
    readsBack_uInt64.member (a := delegation.debondEnd) hnodup (by simp)]
  rfl

namespace AddressMap

variable {β : Type}

def ofJson? (read : Json → Option β) : Json → Option (AddressMap β)
  | .object members =>
    (members.mapM fun (name, json) => do
      let address ← (Address.ofText name).toOption
      let value ← read json
      return (address, value)).map ofList
  | _ => none

/-- An object has one member for each entry of a map, by the text of its address, and the map reads
back from it. -/
structure ToldBy (read : Json → Option β) (map : AddressMap β) (json : Json) : Prop where
  exists_members : ∃ members, json = .object members ∧ (members.map (·.1)).Nodup ∧
    (members.map (·.1)).Perm (map.entries.map fun e => e.1.text)
  ofJson?_eq : ofJson? read json = some map

theorem nodup_texts (map : AddressMap β) : (map.entries.map fun e => e.1.text).Nodup := by
  have hbytes := Assoc.nodup_of_ascending map.ascending
  refine List.pairwise_map.mpr ((List.pairwise_map.mp hbytes).imp ?_)
  intro a b hne htext
  exact hne (congrArg Address.bytes (Address.text_inj.mp htext))

theorem toldBy_normal {write : β → Json} {read : Json → Option β} (h : ReadsBack write read)
    (map : AddressMap β) :
    map.ToldBy read (Json.object (map.entries.map fun (address, value) =>
      (address.text, write value))).normal := by
  have hnodup : ((map.entries.map fun (address, value) => (address.text, write value)).map
      (·.1)).Nodup := by
    rw [List.map_map]
    exact map.nodup_texts
  have hmembers := arrange_normalMembers_perm hnodup
  rw [List.map_map] at hmembers
  -- The members are those of the entries in some order, and every order makes the same map.
  obtain ⟨entries, heq, hperm⟩ := (congrFun₂ (List.eq_map_comp_perm _) _ map.entries).mpr hmembers
  rw [normal, heq]
  have hnames := hperm.map fun e => e.1.text
  constructor
  · refine ⟨_, rfl, ?_, ?_⟩ <;> rw [List.map_map]
    · exact hnames.nodup_iff.mpr map.nodup_texts
    · exact hnames
  · have hentries : ofList entries = map := by
      rw [ofList]
      congr 1
      exact Assoc.arrange_eq_of_perm map.ascending hperm
    rw [ofJson?, mapM_map_of_forall ?_ entries, Option.map_some, hentries]
    rintro ⟨address, value⟩
    have hread := h value
    simp_all [Address.ofText_text, Except.toOption]

end AddressMap

end Staking

open Json Staking

/-- What a balance in escrow tells about an account. -/
structure EscrowReport where
  nonce : UInt64
  escrow : EscrowAccount
  delegations : Delegations
  debondingDelegations : DebondingDelegations

namespace EscrowReport

def ofJson? (json : Json) : Option EscrowReport := do
  let nonce ← (json.member? nonceKey).bind asUInt64?
  let activeBalance ← (json.member? "active_balance").bind asQuantity?
  let activeShares ← (json.member? "active_shares").bind asQuantity?
  let debondingBalance ← (json.member? "debonding_balance").bind asQuantity?
  let debondingShares ← (json.member? "debonding_shares").bind asQuantity?
  let delegations ← (json.member? "delegations").bind (AddressMap.ofJson? Delegation.ofJson?)
  let debonding ← (json.member? "debonding_delegations").bind
    (AddressMap.ofJson? (asList? DebondingDelegation.ofJson?))
  return ⟨nonce, ⟨⟨activeBalance, activeShares⟩, ⟨debondingBalance, debondingShares⟩⟩, delegations,
    debonding⟩

theorem readsBack_delegations :
    ReadsBack delegationsJson (AddressMap.ofJson? Delegation.ofJson?) :=
  fun delegations => (AddressMap.toldBy_normal readsBack_delegation delegations).ofJson?_eq

theorem readsBack_debondingDelegations :
    ReadsBack debondingDelegationsJson
      (AddressMap.ofJson? (asList? DebondingDelegation.ofJson?)) :=
  fun debonding =>
    (AddressMap.toldBy_normal readsBack_debondingDelegation.list debonding).ofJson?_eq

def members (account : Account) (delegations : Delegations) (debonding : DebondingDelegations) :
    List (String × Json) :=
  [(nonceKey, .integer account.general.nonce.toNat),
    ("active_balance", quantityJson account.escrow.active.balance),
    ("active_shares", quantityJson account.escrow.active.totalShares),
    ("debonding_balance", quantityJson account.escrow.debonding.balance),
    ("debonding_shares", quantityJson account.escrow.debonding.totalShares),
    ("delegations", delegationsJson delegations),
    ("debonding_delegations", debondingDelegationsJson debonding)]

section

variable (account : Account) (delegations : Delegations) (debonding : DebondingDelegations)

theorem nodup_names : ((members account delegations debonding).map (·.1)).Nodup := by
  change [nonceKey, "active_balance", "active_shares", "debonding_balance", "debonding_shares",
    "delegations", "debonding_delegations"].Nodup
  decide

/-- The metadata of a balance in escrow are a faithful report. -/
theorem ofJson?_escrowMetadata :
    ofJson? (escrowMetadata account delegations debonding).toJson =
      some ⟨account.general.nonce, account.escrow, delegations, debonding⟩ := by
  have hnodup := nodup_names account delegations debonding
  change ofJson? (Json.object (members account delegations debonding)).normal = _
  rw [ofJson?,
    readsBack_uInt64.member (a := account.general.nonce) hnodup (by simp [members]),
    readsBack_quantity.member (a := account.escrow.active.balance) hnodup (by simp [members]),
    readsBack_quantity.member (a := account.escrow.active.totalShares) hnodup (by simp [members]),
    readsBack_quantity.member (a := account.escrow.debonding.balance) hnodup (by simp [members]),
    readsBack_quantity.member (a := account.escrow.debonding.totalShares) hnodup
      (by simp [members]),
    readsBack_delegations.member (a := delegations) hnodup (by simp [members]),
    readsBack_debondingDelegations.member (a := debonding) hnodup (by simp [members])]
  rfl

theorem find?_delegations :
    (escrowMetadata account delegations debonding).find? "delegations" =
      some (delegationsJson delegations).normal :=
  Object.find?_ofMembers (nodup_names account delegations debonding) (by simp [members])

theorem find?_debondingDelegations :
    (escrowMetadata account delegations debonding).find? "debonding_delegations" =
      some (debondingDelegationsJson debonding).normal :=
  Object.find?_ofMembers (nodup_names account delegations debonding) (by simp [members])

end

end EscrowReport

/-- A response tells all of an account's escrow.  The balance is the sum of those of the two pools,
in decimal digits.  The nonce, the pools and the delegations are read off the metadata, and the
delegations stand there by the texts of their addresses. -/
structure TellsEscrow (response : AccountBalanceResponse) (metadata : Object) (account : Account)
    (delegations : Delegations) (debonding : DebondingDelegations) : Prop where
  balances_eq : response.balances =
    [⟨toString (account.escrow.active.balance.units + account.escrow.debonding.balance.units),
      currency, none⟩]
  metadata_eq : response.metadata = some metadata
  report_eq : EscrowReport.ofJson? metadata.toJson =
    some ⟨account.general.nonce, account.escrow, delegations, debonding⟩
  exists_delegations : ∃ json, metadata.find? "delegations" = some json ∧
    delegations.ToldBy Delegation.ofJson? json
  exists_debondingDelegations : ∃ json, metadata.find? "debonding_delegations" = some json ∧
    debonding.ToldBy (asList? DebondingDelegation.ofJson?) json

theorem tellsEscrow_balanceResponse (block : BlockHeader) (account : Account)
    (delegations : Delegations) (debonding : DebondingDelegations) :
    TellsEscrow (balanceResponse true block account delegations debonding)
      (escrowMetadata account delegations debonding) account delegations debonding where
  balances_eq := rfl
  metadata_eq := rfl
  report_eq := EscrowReport.ofJson?_escrowMetadata account delegations debonding
  exists_delegations := ⟨_, EscrowReport.find?_delegations account delegations debonding,
    AddressMap.toldBy_normal readsBack_delegation delegations⟩
  exists_debondingDelegations :=
    ⟨_, EscrowReport.find?_debondingDelegations account delegations debonding,
      AddressMap.toldBy_normal readsBack_debondingDelegation.list debonding⟩

theorem asksForEscrow_of_subAccount {account : AccountIdentifier}
    (h : account.subAccount.map (·.address) = some escrowSubAccount) :
    asksForEscrow account = .ok true := by
  obtain ⟨subAccount, hsubAccount, haddress⟩ := Option.map_eq_some_iff.mp h
  simp only [asksForEscrow, hsubAccount, haddress]
  rfl

/-- Every answer about an escrow tells what the node answers about the account and about its
delegations, and nothing of it is lost. -/
theorem tellsEscrow_of_accountBalance {m : Type → Type} [Monad m] {σ : Type} [Stateful m σ]
    {gateway : Gateway m} {request : AccountBalanceRequest} {response : AccountBalanceResponse}
    {s s' : σ}
    (hescrow : request.accountIdentifier.subAccount.map (·.address) = some escrowSubAccount)
    (h : Succeeds (gateway.accountBalance request) s response s') :
    ∃ node height owner, gateway = .online node ∧
      requestedHeight request.blockIdentifier = .ok height ∧
      Input.address request.accountIdentifier.address = .ok owner ∧
      ∃ account t t₁ t₂ delegations t₃ debonding metadata,
        Succeeds (node.account height owner) t account t₁ ∧
        Succeeds (node.delegations height owner) t₂ delegations t₃ ∧
        Succeeds (node.debondingDelegations height owner) t₃ debonding s' ∧
        TellsEscrow response metadata account delegations debonding := by
  cases gateway with
  | offline chainId =>
      obtain ⟨_, _, hthrow, _⟩ := succeeds_bind_iff.mp h
      exact (not_succeeds_throw hthrow).elim
  | online node =>
      obtain ⟨chainId, t, height, owner, _, -, hheight, howner, hasks, account, t₁, block, t₂,
        haccount, -, h⟩ := succeeds_accountBalance_iff.mp h
      cases (asksForEscrow_of_subAccount hescrow).symm.trans hasks
      obtain ⟨delegations, t₃, debonding, hdelegations, hdebonding, rfl⟩ := h
      exact ⟨node, height, owner, rfl, hheight, howner, account, t, t₁, t₂, delegations, t₃,
        debonding, _, haccount, hdelegations, hdebonding,
        tellsEscrow_balanceResponse block account delegations debonding⟩

/-- A node that answers alike about every account at every height. -/
def Node.ofAccount (account : Account) (delegations : Delegations)
    (debonding : DebondingDelegations) : Node (StateM Nat) :=
  { Node.nameOnly "chain" with
    block height := pure ⟨height, .zero, height, .zero, 0⟩
    account _ _ := pure account
    delegations _ _ := pure delegations
    debondingDelegations _ _ := pure debonding }

def escrowRequest (owner : Address) : AccountBalanceRequest where
  networkIdentifier := some (.of blockchain "chain")
  accountIdentifier := owner.escrowAccount
  blockIdentifier := none

theorem exists_accountBalance_ofAccount (account : Account) (delegations : Delegations)
    (debonding : DebondingDelegations) (owner : Address) :
    ∃ response, Succeeds ((Gateway.online (.ofAccount account delegations debonding)).accountBalance
      (escrowRequest owner)) 0 response 0 :=
  ⟨_, succeeds_accountBalance_iff.mpr ⟨"chain", 0, latestHeight, owner, true, rfl, rfl,
    address_text owner, rfl, account, 0, _, 0, rfl, rfl, delegations, 0, debonding, rfl, rfl, rfl⟩⟩

/-- A pool of more than 2⁶⁴ tokens, a delegation, and of two debonding ones an empty list. -/
theorem tellsEscrow_of_accountBalance_commonPool :
    let account : Account := ⟨⟨⟨7⟩, 1⟩, ⟨⟨⟨2 ^ 64 + 1⟩, ⟨400⟩⟩, ⟨⟨50⟩, ⟨50⟩⟩⟩⟩
    let delegations : Delegations := .ofList [(.feeAccumulator, ⟨⟨100⟩⟩)]
    let debonding : DebondingDelegations :=
      .ofList [(.commonPool, []), (.feeAccumulator, [⟨⟨25⟩, 0xffffffffffffffff⟩])]
    ∃ response metadata,
      Succeeds ((Gateway.online (.ofAccount account delegations debonding)).accountBalance
        (escrowRequest .commonPool)) 0 response 0 ∧
      TellsEscrow response metadata account delegations debonding := by
  intro account delegations debonding
  obtain ⟨response, hsucceeds⟩ :=
    exists_accountBalance_ofAccount account delegations debonding .commonPool
  obtain ⟨_, _, _, hnode, -, -, _, _, _, _, _, _, _, metadata, haccount, hdelegations, hdebonding,
    htells⟩ := tellsEscrow_of_accountBalance rfl hsucceeds
  cases hnode
  obtain ⟨rfl, -⟩ := succeeds_pure_iff.mp haccount
  obtain ⟨rfl, -⟩ := succeeds_pure_iff.mp hdelegations
  obtain ⟨rfl, -⟩ := succeeds_pure_iff.mp hdebonding
  exact ⟨response, metadata, hsucceeds, htells⟩

end StakingGateway
