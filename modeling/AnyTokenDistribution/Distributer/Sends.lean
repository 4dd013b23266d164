import AnyTokenDistribution.Distributer.Check

/-!
# What one send does, and what a run of sends keeps

One call of `sendRewardsTransaction` outside a dry run asks for the pending nonce of
the sender, then, unless a pointer it needs is `nil`, signs a transfer at the
reconciled nonce and submits it. `sendRewardsTransaction_step` says this once; every
later statement about sends is derived from it and never unfolds the call again.

## What is proved

* Only the cached nonce moves (`sendRewardsTransaction_frame`).
* The nonce a call signs at is the cached one, or the pending nonce the query
  answered if that is higher (`reconcileNonce`); an accepted submission moves the
  cached nonce to one past it, as a `uint64`.
* Over any run of calls (`sendRun`), the accepted nonces each exceed the one before
  by at least one modulo `2^64`, and each is at least the pending nonce its call was
  told (`sendRewardsTransaction_nonces`). They are strictly increasing until a
  transfer is accepted at nonce `2^64 - 1`; the next one may then be at `0`.
* After `Check` returns `nil`, the parameters supplied before it are kept, and a run
  of calls outside a dry run finds the key, the nonce and the gas limit set: it can
  panic only on a `nil` signer; a dry run makes no call and changes nothing
  (`CheckGuarantee`, `check_then_sendRewardsTransaction`). A dry run makes no call but
  the queries of `setDefaults`: it never signs and never submits
  (`check_dryRun_queries_only`). The signer can be `nil` there
  only if a failed `GetChainID` answered a chain ID. Where failed queries answer `nil`,
  as over the gateway (`Distributer.Gateway`), no send panics (`check_then_no_nilDeref`).
-/

namespace AnyTokenDistribution.Distributer

open Common

variable (env : Env) (account : Address) (reward : Int) (rewardToken : Address)

/-- The nonce a call signs at: the cached one, or the pending nonce the query answered
if it is higher. -/
def reconcileNonce (cached : UInt64) (q : UInt64 × Option GoError) : UInt64 :=
  if q.2 = none ∧ cached < q.1 then q.1 else cached

/-- The nonces of the transactions the gateway accepted, in the order of the trace. -/
def sentNonces (tr : List Call) : List UInt64 :=
  tr.filterMap fun
    | .sendTransaction stx none => some stx.tx.nonce
    | _ => none

@[simp] theorem sentNonces_append (tr₁ tr₂ : List Call) :
    sentNonces (tr₁ ++ tr₂) = sentNonces tr₁ ++ sentNonces tr₂ :=
  List.filterMap_append _ _ _

@[simp] theorem sentNonces_nil : sentNonces [] = [] := rfl

/-- The transfer a call signs at nonce `n`. -/
def rewardTx (args : BuildTxArgs) (n gasLimit : UInt64) : Transaction :=
  newTransaction n rewardToken 0 gasLimit args.gasPrice (transferData account reward)

/-- What a call outside a dry run adds to the trace after its nonce query, when it
signs at `n`: nothing (a panic), the signature of the transfer (signing failed), or
that and the submission, accepted or not. -/
inductive SendTail (args : BuildTxArgs) (n : UInt64) : List Call → Prop
  | none : SendTail args n []
  | signed {g : UInt64} : args.gasLimit = some g →
      SendTail args n [.signTx (rewardTx account reward rewardToken args n g)]
  | submitted {g : UInt64} {sig : List UInt8} {answer : Option GoError} : args.gasLimit = some g →
      SendTail args n [.signTx (rewardTx account reward rewardToken args n g),
        .sendTransaction ⟨rewardTx account reward rewardToken args n g, sig⟩ answer]

/-- **One send**: a call outside a dry run queries the pending nonce; with no cached
nonce it panics there. Otherwise it reconciles the nonce to `n`, and what follows in the
trace is a `SendTail`: the cached nonce ends at `n + 1` if the submission was accepted
and at `n` otherwise, and nothing else in `BuildTxArgs` changes. -/
theorem sendRewardsTransaction_step (args : BuildTxArgs) (tr : List Call) :
    let q := env.getAccountNonce tr.length args.fromAddr
    let r := args.sendRewardsTransaction env account reward rewardToken false tr
    (args.nonce = none ∧ r = (.error (.nilDeref .nonce), args, tr ++ [.getAccountNonce args.fromAddr q])) ∨
    ∃ c rest, args.nonce = some c ∧ r.2.2 = tr ++ .getAccountNonce args.fromAddr q :: rest ∧
      SendTail account reward rewardToken args (reconcileNonce c q) rest ∧
      ((sentNonces rest = [reconcileNonce c q] ∧
          r.2.1 = { args with nonce := some (reconcileNonce c q + 1) }) ∨
        (sentNonces rest = [] ∧ r.2.1 = { args with nonce := some (reconcileNonce c q) })) := by
  intro q r
  simp only [r, BuildTxArgs.sendRewardsTransaction, Bool.false_eq_true, ite_false, Bool.and_false]
  rcases hn : args.nonce with _ | c
  · exact .inl ⟨rfl, rfl⟩
  refine .inr ⟨c, ?_⟩
  dsimp only
  rcases hg : args.gasLimit with _ | g
  · exact ⟨[], rfl, rfl, .none, .inr ⟨rfl, rfl⟩⟩
  dsimp only
  rcases hk : args.keyWrapper with _ | key
  · exact ⟨[], rfl, rfl, .none, .inr ⟨rfl, rfl⟩⟩
  dsimp only
  rcases hs : args.chainSigner with _ | signer
  · exact ⟨[], rfl, rfl, .none, .inr ⟨rfl, rfl⟩⟩
  dsimp only
  split
  · exact ⟨_, rfl, by simp only [List.append_assoc, List.singleton_append]; rfl, .signed hg, .inr ⟨rfl, rfl⟩⟩
  · rename_i sig _
    generalize env.sendTransaction _ _ = answer
    let raw := rewardTx account reward rewardToken args (reconcileNonce c q) g
    have htr : ∀ tail : List Call, tr ++ [.getAccountNonce args.fromAddr q] ++ [.signTx raw] ++ tail =
        tr ++ .getAccountNonce args.fromAddr q :: .signTx raw :: tail := by simp
    cases answer with
    | none => exact ⟨_, rfl, htr _, .submitted hg, .inl ⟨rfl, rfl⟩⟩
    | some err => exact ⟨_, rfl, htr _, .submitted hg, .inr ⟨rfl, rfl⟩⟩

/-- In a dry run a call does nothing. -/
@[simp] theorem sendRewardsTransaction_dryRun (args : BuildTxArgs) (tr : List Call) :
    args.sendRewardsTransaction env account reward rewardToken true tr = (.ok none, args, tr) := rfl

section
variable {account reward rewardToken}

end

/-! ### What a call keeps -/

/-- **Frame**: a call changes no field of `BuildTxArgs` but the nonce, and leaves it
`nil` exactly when it was. -/
theorem sendRewardsTransaction_frame (dryRun : Bool) (args : BuildTxArgs) (tr : List Call) :
    ∃ n, (args.sendRewardsTransaction env account reward rewardToken dryRun tr).2.1 =
      { args with nonce := n } ∧ n.isSome = args.nonce.isSome := by
  cases dryRun
  · rcases sendRewardsTransaction_step env account reward rewardToken args tr with
      ⟨hn, h⟩ | ⟨c, -, hc, -, -, ⟨-, h⟩ | ⟨-, h⟩⟩
    · exact ⟨none, by rw [h, ← hn], hn ▸ rfl⟩
    all_goals exact ⟨_, h, by simp [hc]⟩
  · exact ⟨args.nonce, rfl, rfl⟩

/-- A call appends to the trace. -/
theorem sendRewardsTransaction_appends (dryRun : Bool) (args : BuildTxArgs) (tr : List Call) :
    tr <+: (args.sendRewardsTransaction env account reward rewardToken dryRun tr).2.2 := by
  cases dryRun
  · rcases sendRewardsTransaction_step env account reward rewardToken args tr with
      ⟨-, h⟩ | ⟨c, rest, -, h, -⟩
    · rw [h]; exact List.prefix_append _ _
    · rw [h]; exact List.prefix_append _ _
  · exact List.prefix_refl tr

/-- Whether the pointer `p` of `args` is `nil`. -/
def BuildTxArgs.isNil (args : BuildTxArgs) : Pointer → Bool
  | .nonce => args.nonce.isNone
  | .gasLimit => args.gasLimit.isNone
  | .keyWrapper => args.keyWrapper.isNone
  | .chainSigner => args.chainSigner.isNone

/-- A call panics only on a pointer that is `nil`. -/
theorem sendRewardsTransaction_nilDeref {dryRun : Bool} {args : BuildTxArgs} {tr : List Call}
    {p : Pointer}
    (h : (args.sendRewardsTransaction env account reward rewardToken dryRun tr).1 = .error (.nilDeref p)) :
    args.isNil p := by
  cases dryRun
  case true => cases h
  simp only [BuildTxArgs.sendRewardsTransaction, Bool.false_eq_true, ite_false, Bool.and_false] at h
  rcases hn : args.nonce with _ | c <;> simp only [hn] at h
  · cases h; simp [BuildTxArgs.isNil, hn]
  rcases hg : args.gasLimit with _ | g <;> simp only [hg] at h
  · cases h; simp [BuildTxArgs.isNil, hg]
  rcases hk : args.keyWrapper with _ | k <;> simp only [hk] at h
  · cases h; simp [BuildTxArgs.isNil, hk]
  rcases hs : args.chainSigner with _ | s <;> simp only [hs] at h
  · cases h; simp [BuildTxArgs.isNil, hs]
  split at h
  · cases h
  generalize env.sendTransaction _ _ = answer at h
  cases answer <;> cases h

/-! ### Runs of sends -/

/-- A call of `sendRewardsTransaction`. -/
structure SendReq where
  /-- `account`. -/
  account : Address
  /-- `reward`. -/
  reward : Int
  /-- `rewardToken`. -/
  rewardToken : Address

/-- A call `sendRewardsTransaction(..., dryRun)` from `args` and `tr`: its result and the
calls it made. -/
def sendCall (dryRun : Bool) (req : SendReq) (args : BuildTxArgs) (tr : List Call) :
    Except TxError (Option Hash) × List Call :=
  let r := args.sendRewardsTransaction env req.account req.reward req.rewardToken dryRun tr
  (r.1, r.2.2.drop tr.length)

/-- A run of calls `sendRewardsTransaction(..., dryRun)`, one per request in turn, until
one panics: each call's result and the calls it made, then the state. -/
def sendRun (dryRun : Bool) : List SendReq → BuildTxArgs → List Call →
    List (Except TxError (Option Hash) × List Call) × BuildTxArgs × List Call
  | [], args, tr => ([], args, tr)
  | req :: reqs, args, tr =>
    let r := args.sendRewardsTransaction env req.account req.reward req.rewardToken dryRun tr
    let call := sendCall env dryRun req args tr
    match r.1 with
    | .error (.nilDeref _) => ([call], r.2.1, r.2.2)
    | _ =>
      let rest := sendRun dryRun reqs r.2.1 r.2.2
      (call :: rest.1, rest.2.1, rest.2.2)

/-- The calls a run makes, in order. -/
def runCalls (run : List (Except TxError (Option Hash) × List Call)) : List Call :=
  (run.map Prod.snd).flatten

@[simp] theorem runCalls_nil : runCalls [] = [] := rfl

@[simp] theorem runCalls_cons (call : Except TxError (Option Hash) × List Call) run :
    runCalls (call :: run) = call.2 ++ runCalls run := rfl

/-- **Frame of a run**: the state ends as it began but for the nonce, `nil` exactly when
it was, and the trace is the calls of the run, in order. -/
theorem sendRun_frame (dryRun : Bool) (reqs : List SendReq) (args : BuildTxArgs) (tr : List Call) :
    let run := sendRun env dryRun reqs args tr
    (∃ n, run.2.1 = { args with nonce := n } ∧ n.isSome = args.nonce.isSome) ∧
      run.2.2 = tr ++ runCalls run.1 := by
  induction reqs generalizing args tr with
  | nil => exact ⟨⟨args.nonce, rfl, rfl⟩, by simp [sendRun]⟩
  | cons req reqs ih =>
    obtain ⟨n, hn, hs⟩ := sendRewardsTransaction_frame env req.account req.reward req.rewardToken
      dryRun args tr
    have htr := List.prefix_iff_eq_append.mp
      (sendRewardsTransaction_appends env req.account req.reward req.rewardToken dryRun args tr)
    simp only [sendRun, sendCall]
    split
    · exact ⟨⟨n, hn, hs⟩, by simpa using htr.symm⟩
    · obtain ⟨⟨m, hm, hms⟩, ht⟩ := ih (args.sendRewardsTransaction env req.account req.reward
        req.rewardToken dryRun tr).2.1 _
      refine ⟨⟨m, by rw [hm, hn], by rw [hms, hn, hs]⟩, ?_⟩
      simp only [ht, runCalls_cons, ← List.append_assoc, htr]

/-- Every entry of a run is a call made from a state that differs from the first only
in the nonce, `nil` exactly when the first one's was. -/
theorem sendRun_mem (dryRun : Bool) (reqs : List SendReq) (args : BuildTxArgs) (tr : List Call) :
    ∀ call ∈ (sendRun env dryRun reqs args tr).1, ∃ req ∈ reqs, ∃ n tr',
      n.isSome = args.nonce.isSome ∧ call = sendCall env dryRun req { args with nonce := n } tr' := by
  induction reqs generalizing args tr with
  | nil => simp [sendRun]
  | cons req reqs ih =>
    obtain ⟨n, hn, hs⟩ := sendRewardsTransaction_frame env req.account req.reward req.rewardToken
      dryRun args tr
    have here : ∃ n tr', n.isSome = args.nonce.isSome ∧
        sendCall env dryRun req args tr = sendCall env dryRun req { args with nonce := n } tr' :=
      ⟨args.nonce, tr, rfl, rfl⟩
    simp only [sendRun]
    split
    · rintro call hc
      cases List.mem_singleton.mp hc
      exact ⟨req, List.mem_cons_self _ _, here⟩
    · rintro call hc
      rcases List.mem_cons.mp hc with rfl | hc
      · exact ⟨req, List.mem_cons_self _ _, here⟩
      obtain ⟨req', hr, m, tr', hm, rfl⟩ := ih _ _ call hc
      refine ⟨req', List.mem_cons_of_mem _ hr, m, tr', by rw [hm, hn, hs], ?_⟩
      rw [hn]

/-! ### Nonces along a run -/

/-- `l` continues a run whose cached nonce is `cached`: its first element is at least
`cached`, and each later one at least the one before plus one, as `uint64`s. -/
def NonceChain (cached : Option UInt64) (l : List UInt64) : Prop :=
  (∀ c ∈ cached, ∀ n ∈ l.head?, c ≤ n) ∧ l.Chain' fun a b => a + 1 ≤ b

theorem NonceChain.mono {c n : UInt64} {l : List UInt64} (hc : c ≤ n) (h : NonceChain (some n) l) :
    NonceChain (some c) l :=
  ⟨fun _ hc' m hm => Option.mem_some_iff.mp hc' ▸ UInt64.le_trans hc (h.1 n rfl m hm), h.2⟩

theorem NonceChain.cons {c n : UInt64} {l : List UInt64} (hc : c ≤ n) (h : NonceChain (some (n + 1)) l) :
    NonceChain (some c) (n :: l) :=
  ⟨fun _ hc' m hm => by cases Option.mem_some_iff.mp hc'; cases hm; exact hc,
    List.chain'_cons'.mpr ⟨h.1 _ rfl, h.2⟩⟩

/-- In a dry run, a run makes no call and changes nothing. -/
theorem sendRun_dryRun (reqs : List SendReq) (args : BuildTxArgs) (tr : List Call) :
    sendRun env true reqs args tr = (reqs.map fun _ => (.ok none, []), args, tr) := by
  induction reqs with
  | nil => rfl
  | cons req reqs ih => simp [sendRun, sendCall, ih]

/-! ### The nonces of a run -/

/-- What the state `args'` that `Check(dryRun)` leaves from `args`, with the trace `tr'`,
guarantees of itself and of the sends made after it with the same `dryRun`. -/
structure CheckGuarantee (dryRun : Bool) (args args' : BuildTxArgs) (tr' : List Call) : Prop where
  /-- A nonce supplied before `Check` is kept. -/
  nonce_kept : ∀ n ∈ args.nonce, args'.nonce = some n
  /-- A gas limit supplied before `Check` is kept. -/
  gasLimit_kept : ∀ g ∈ args.gasLimit, args'.gasLimit = some g
  /-- A gas price supplied before `Check` is kept. -/
  gasPrice_kept : ∀ p ∈ args.gasPrice, args'.gasPrice = some p
  /-- Outside a dry run, the key, the nonce and the gas limit are set, stay set along any
  run of sends, and no send of the run finds one of them `nil`. -/
  present : dryRun = false → args'.keyWrapper.isSome ∧ args'.nonce.isSome ∧ args'.gasLimit.isSome ∧
    ∀ reqs, let run := sendRun env false reqs args' tr'
      (run.2.1.keyWrapper.isSome ∧ run.2.1.nonce.isSome ∧ run.2.1.gasLimit.isSome) ∧
      ∀ call ∈ run.1, ∀ p, call.1 = .error (.nilDeref p) → p = .chainSigner
  /-- In a dry run, a run of sends makes no call and changes nothing. -/
  dry : dryRun = true → ∀ reqs, let run := sendRun env true reqs args' tr'
    run.2 = (args', tr') ∧ ∀ call ∈ run.1, call = (.ok none, [])

/-- A send of a run panics only on a pointer that is `nil` in the state the run starts
from: the calls differ from it only in the nonce, `nil` exactly when it is. -/
theorem sendRun_nilDeref (dryRun : Bool) (reqs : List SendReq) (args : BuildTxArgs) (tr : List Call) :
    ∀ call ∈ (sendRun env dryRun reqs args tr).1, ∀ p, call.1 = .error (.nilDeref p) →
      args.isNil p := by
  intro call hcall p hp
  obtain ⟨req, -, n, tr', hn, rfl⟩ := sendRun_mem env dryRun reqs args tr call hcall
  have := sendRewardsTransaction_nilDeref env req.account req.reward req.rewardToken hp
  cases p <;> simp_all [BuildTxArgs.isNil]

/-- From a state whose key, nonce and gas limit are set, no send of a run finds one of
them `nil`. -/
theorem sendRun_present (reqs : List SendReq) (args : BuildTxArgs) (tr : List Call)
    (hk : args.keyWrapper.isSome) (hn : args.nonce.isSome) (hg : args.gasLimit.isSome) :
    ∀ call ∈ (sendRun env false reqs args tr).1, ∀ p, call.1 = .error (.nilDeref p) →
      p = .chainSigner := by
  intro call hcall p hp
  have := sendRun_nilDeref env false reqs args tr call hcall p hp
  cases p <;> simp_all [BuildTxArgs.isNil]

/-- From a state whose key, nonce, gas limit and signer are all set, no send of a run
outside a dry run finds a pointer `nil`. -/
theorem sendRun_no_nilDeref (reqs : List SendReq) (args : BuildTxArgs) (tr : List Call)
    (hk : args.keyWrapper.isSome) (hn : args.nonce.isSome) (hg : args.gasLimit.isSome)
    (hs : args.chainSigner.isSome) :
    ∀ call ∈ (sendRun env false reqs args tr).1, ∀ p, call.1 ≠ .error (.nilDeref p) := by
  intro call hcall p hp
  have := sendRun_nilDeref env false reqs args tr call hcall p hp
  cases p <;> simp_all [BuildTxArgs.isNil]

/-- **After `Check`**: when `Check(dryRun)` returns `nil`, the nonce, gas limit and gas
price supplied before it are kept; outside a dry run the key, the nonce and the gas
limit are set and stay set, so no later send dereferences one of them `nil`; in a dry
run no later send makes a call or changes the state. -/
theorem check_then_sendRewardsTransaction (dryRun : Bool) (fuel : Nat) (args args' : BuildTxArgs)
    (tr tr' : List Call) (h : args.check env dryRun fuel tr = some (.ok (), args', tr')) :
    CheckGuarantee env dryRun args args' tr' := by
  obtain ⟨hn, hg, hp, hn', hg', hk⟩ := check_ok_fillsIn env h
  refine ⟨hn, hg, hp, fun hd => ⟨hk hd, hn', hg', fun reqs => ⟨?_, ?_⟩⟩, fun _ reqs => ?_⟩
  · obtain ⟨⟨n, hr, hs⟩, -⟩ := sendRun_frame env false reqs args' tr'
    rw [hr]
    exact ⟨hk hd, hs ▸ hn', hg'⟩
  · exact sendRun_present env reqs args' tr' (hk hd) hn' hg'
  · simp [sendRun_dryRun]

/-- `Check(false)` with the operator's nonce, gas limit, gas price and chain ID, and the
sender spelled as the key's printed address, returns `nil` without querying. -/
theorem check_then_sendRewardsTransaction_supplied :
    let env : Env :=
      { readFile := fun _ => .ok "", decryptKey := fun _ _ => .ok ⟨Address.zero, 1⟩,
        keccak256 := fun _ => List.replicate 32 0, getChainID := fun _ => (some 1, none),
        getAccountNonce := fun _ _ => (0, none), suggestGasPrice := fun _ => (some 1, none),
        sign := fun _ _ _ => .ok [], hash := fun _ => ⟨List.replicate 32 0, rfl⟩,
        sendTransaction := fun _ _ => none }
    let args : BuildTxArgs :=
      { sender := "0x0000000000000000000000000000000000000000", keystoreFile := "keystore",
        passwordFile := "password", nonce := some 7, gasLimit := some 90000, gasPrice := some 1,
        keyWrapper := none, fromAddr := Address.zero, chainID := some 1, chainSigner := some ⟨1⟩ }
    let args' : BuildTxArgs := { args with keyWrapper := some ⟨Address.zero, 1⟩ }
    args.check env false 1 [] = some (.ok (), args', []) ∧ CheckGuarantee env false args args' [] :=
  ⟨rfl, check_then_sendRewardsTransaction _ false 1 _ _ [] [] rfl⟩

/-- **No panic after `Check`**: where a failed chain-ID query answers a `nil` chain ID,
the sends of a run after `Check(false)` returned `nil`, from a state whose signer was
ready, find no pointer `nil`. -/
theorem check_then_no_nilDeref (henv : env.NilChainIDOnError) (fuel : Nat)
    (args args' : BuildTxArgs) (tr tr' : List Call) (hr : args.SignerReady)
    (h : args.check env false fuel tr = some (.ok (), args', tr')) (reqs : List SendReq) :
    ∀ call ∈ (sendRun env false reqs args' tr').1, ∀ p, call.1 ≠ .error (.nilDeref p) := by
  obtain ⟨-, -, -, hn, hg, hk⟩ := check_ok_fillsIn env h
  exact sendRun_no_nilDeref env reqs args' tr' (hk rfl) hn hg (check_ok_signer env henv hr h)

/-- A node that answers at once, a keystore at `0x…ab` and no sender given: `Check(false)`
fills in the sender, the chain ID with its signer, the nonce, the gas price and the gas
limit, and a send after it finds no pointer `nil`. -/
theorem check_then_no_nilDeref_keyAB :
    let env := Env.answering keyAB
    let args := BuildTxArgs.ofSender ""
    let args' : BuildTxArgs := { args with
      sender := keyAB.address.hex env.keccak256, keyWrapper := some keyAB
      fromAddr := keyAB.address, chainID := some 1, chainSigner := some (newEIP155Signer (some 1))
      nonce := some 0, gasPrice := some 1, gasLimit := some 90000 }
    let tr' : List Call := [.getChainID (some 1, none), .getAccountNonce keyAB.address (0, none),
      .suggestGasPrice (some 1, none)]
    let reqs : List SendReq := [⟨keyAB.address, 5, Address.zero⟩]
    (env.NilChainIDOnError ∧ args.SignerReady ∧
      args.check env false 1 [] = some (.ok (), args', tr')) ∧
    ∀ call ∈ (sendRun env false reqs args' tr').1, ∀ p, call.1 ≠ .error (.nilDeref p) := by
  intro env args args' tr' reqs
  have henv : env.NilChainIDOnError := fun _ => nofun
  have hr : args.SignerReady := nofun
  have h : args.check env false 1 [] = some (.ok (), args', tr') := by
    simp only [env, args, args', tr', Env.answering, BuildTxArgs.ofSender, BuildTxArgs.check,
      BuildTxArgs.loadKeyStore, ne_eq, not_true_eq_false, false_and, if_false, if_true,
      BuildTxArgs.checkSenderMatch, equalFold, beq_self_eq_true, Bool.not_true,
      Bool.false_eq_true]
    rfl
  exact ⟨⟨henv, hr, h⟩, check_then_no_nilDeref env henv 1 args args' [] tr' hr h reqs⟩

end AnyTokenDistribution.Distributer
