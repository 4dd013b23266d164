import AnyTokenDistribution.Distributer.Sends
import AnyTokenDistribution.Callapi.Failover

/-!
# The builder over the gateway

`sendtx.go` reaches the node through the package's `capi`, the `callapi.APICaller` that
`SetAPICaller` installs: `setDefaults` and `sendRewardsTransaction` call its `GetChainID`,
`GetAccountNonce`, `SuggestGasPrice` and `SendTransaction`, each the failover loop over
the gateway's clients. `Env.ofGateway` is the builder's `Env` with these four answered by
the `APICaller` methods of `Callapi.Failover`, so that what is proved of the builder over
any `Env` holds of the builder over the gateway.

## The model

The clients are `ethclient.Client`s, which are not under `src/`. `EthClients` gives what
each answers to the four calls, by the number of client calls made before it, and carries
the one fact of `ethclient` the builder relies on: `NetworkID` returns a `nil` ID with
every error. The client calls of the builder's `i`-th call are numbered from
`clientCalls i` on; any numbering is allowed. The other collaborators of the builder (the
keystore, the hash, the signer) are those of a given `Env`.

## What is proved

* Over the gateway a failed chain-ID query answers a `nil` ID, also over no client, where
  `GetChainID` answers `nil` with no error (`Env.ofGateway_nilChainIDOnError`).
* So after `Check(false)` over the gateway returns `nil` from a state whose signer is
  ready, no send of any later run dereferences a `nil` pointer
  (`gateway_check_then_no_nilDeref`).
-/

namespace AnyTokenDistribution.Distributer

open Common Callapi

/-- What the builder asks of each `ethclient.Client` of the gateway, by the number of
client calls made before it. -/
structure EthClients (κ : Type) where
  /-- `client.NetworkID(ctx)`. -/
  networkID : Nat → κ → Option Int × Option GoError
  /-- `client.PendingNonceAt(ctx, account)`. -/
  pendingNonceAt : Nat → κ → Address → UInt64 × Option GoError
  /-- `client.SuggestGasPrice(ctx)`. -/
  suggestGasPrice : Nat → κ → Option Int × Option GoError
  /-- `client.SendTransaction(ctx, tx)`. -/
  sendTransaction : Nat → κ → SignedTx → Option GoError
  /-- `NetworkID` returns `nil, err` on every error. -/
  networkID_nil : ∀ t client, (networkID t client).2.isSome → (networkID t client).1 = none

variable {κ : Type}

/-- The builder's collaborators with `capi` the gateway `c` over the clients `clients`, the
client calls of the builder's `i`-th call numbered from `clientCalls i` on. -/
def Env.ofGateway (base : Env) (c : APICaller κ) (clients : EthClients κ)
    (clientCalls : Nat → Nat) : Env :=
  { base with
    getChainID := fun i => (c.getChainID (clientCalls i) clients.networkID).1
    getAccountNonce := fun i a => (c.getAccountNonce (clientCalls i) clients.pendingNonceAt a).1
    suggestGasPrice := fun i => (c.suggestGasPrice (clientCalls i) clients.suggestGasPrice).1
    sendTransaction := fun i stx =>
      (c.sendTransaction (clientCalls i) clients.sendTransaction stx).1 }

/-- Over the gateway, a failed chain-ID query answers a `nil` chain ID. -/
theorem Env.ofGateway_nilChainIDOnError (base : Env) (c : APICaller κ) (clients : EthClients κ)
    (clientCalls : Nat → Nat) : (base.ofGateway c clients clientCalls).NilChainIDOnError :=
  fun i => c.getChainID_nil_of_error (clientCalls i) clients.networkID clients.networkID_nil

/-- **No panic over the gateway**: after `Check(false)` over the gateway returns `nil` from a
state whose signer is ready, the sends of any later run over the gateway find no pointer
`nil`. -/
theorem gateway_check_then_no_nilDeref (base : Env) (c : APICaller κ) (clients : EthClients κ)
    (clientCalls : Nat → Nat) (fuel : Nat) (args args' : BuildTxArgs) (tr tr' : List Call)
    (hr : args.SignerReady)
    (h : args.check (base.ofGateway c clients clientCalls) false fuel tr = some (.ok (), args', tr'))
    (reqs : List SendReq) :
    ∀ call ∈ (sendRun (base.ofGateway c clients clientCalls) false reqs args' tr').1, ∀ p,
      call.1 ≠ .error (.nilDeref p) := by
  obtain ⟨-, -, -, hn, hg, hk⟩ := check_ok_fillsIn _ h
  exact sendRun_no_nilDeref _ reqs args' tr' (hk rfl) hn hg
    (check_ok_signer _ (base.ofGateway_nilChainIDOnError c clients clientCalls) hr h)

/-- Two clients: the first refuses every call, the second answers at once, chain `1`,
nonce `0` and gas price `1`. -/
def fallbackClients : EthClients Nat where
  networkID _ client := if client = 0 then (none, some ⟨"connection refused"⟩) else (some 1, none)
  pendingNonceAt _ client _ := if client = 0 then (0, some ⟨"connection refused"⟩) else (0, none)
  suggestGasPrice _ client :=
    if client = 0 then (none, some ⟨"connection refused"⟩) else (some 1, none)
  sendTransaction _ client _ := if client = 0 then some ⟨"connection refused"⟩ else none
  networkID_nil _ client := by by_cases h : client = 0 <;> simp [h]

/-- A gateway whose first client refuses every call and whose second answers, a keystore at
`0x…ab` and no sender given: `Check(false)` fills everything in from the second client, and
a send after it finds no pointer `nil`. -/
theorem gateway_check_then_no_nilDeref_fallback :
    let c : APICaller Nat := ⟨[0, 1], 3, 1000000000⟩
    let env := (Env.answering keyAB).ofGateway c fallbackClients (2 * ·)
    let args := BuildTxArgs.ofSender ""
    let args' : BuildTxArgs := { args with
      sender := keyAB.address.hex env.keccak256, keyWrapper := some keyAB
      fromAddr := keyAB.address, chainID := some 1, chainSigner := some (newEIP155Signer (some 1))
      nonce := some 0, gasPrice := some 1, gasLimit := some 90000 }
    let tr' : List Call := [.getChainID (some 1, none), .getAccountNonce keyAB.address (0, none),
      .suggestGasPrice (some 1, none)]
    let reqs : List SendReq := [⟨keyAB.address, 5, Address.zero⟩]
    (args.SignerReady ∧ args.check env false 1 [] = some (.ok (), args', tr')) ∧
    ∀ call ∈ (sendRun env false reqs args' tr').1, ∀ p, call.1 ≠ .error (.nilDeref p) := by
  intro c env args args' tr' reqs
  have hr : args.SignerReady := nofun
  have h : args.check env false 1 [] = some (.ok (), args', tr') := by
    simp only [env, args, args', tr', Env.answering, BuildTxArgs.ofSender, BuildTxArgs.check,
      BuildTxArgs.loadKeyStore, Env.ofGateway, ne_eq, not_true_eq_false, false_and, if_false,
      if_true, BuildTxArgs.checkSenderMatch, equalFold, beq_self_eq_true, Bool.not_true,
      Bool.false_eq_true]
    rfl
  exact ⟨⟨hr, h⟩,
    gateway_check_then_no_nilDeref _ c fallbackClients (2 * ·) 1 args args' [] tr' hr h reqs⟩

end AnyTokenDistribution.Distributer
