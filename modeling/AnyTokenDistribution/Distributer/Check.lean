import AnyTokenDistribution.Distributer.BuildTxArgs

/-!
# What `Check` changes, and how it compares the sender

`BuildTxArgs.Check` reads the keystore, compares the sender with the key's address,
then runs `setDefaults`. This module says once what each of `loadKeyStore` and
`setDefaults` may do to `BuildTxArgs` and derives what `Check` leaves behind when it
returns `nil`.

## What is proved

* `setDefaults` only fills in parameters that are `nil` (`FillsIn`); when its loop
  reaches `break`, the nonce and the gas limit are set, and it has made no call but the
  three queries (`setDefaultsLoop_spec`).
* The loop ends once the node answers: a pass `continue`s only after a call whose
  answer is an error, so if every query from the `n`-th call on is answered, `n` passes
  and one more suffice (`setDefaultsLoop_isSome`), and `Check` returns (`check_isSome`).
* A failed `GetChainID` that still answered a chain ID would leave it set without a
  signer, and no later pass would ask again. Where a failed query answers a `nil` chain
  ID, as `ethclient` does, `Check` returning `nil` leaves the signer set (`check_ok_signer`).
* `loadKeyStore` changes only the key, the address and the sender (`loadKeyStore_spec`).
* When `Check` returns `nil`, the nonce, gas limit and gas price supplied before it are
  kept, the nonce and the gas limit are set, and outside a dry run so is the key
  (`check_ok_fillsIn`). When it returns an error, it has made no call and changed only
  the key, the address and the sender (`check_error_frame`).
* The sender is compared with the key's address as text, `strings.EqualFold` against
  `Address.String()`, which always has the `0x` prefix. A sender written as that string
  passes (`check_printed_sender`, `check_dryRun_printed_sender`); a sender that
  `IsHexAddress` accepts without the prefix never matches, even when it spells the key's
  address (`check_unprefixed_sender`, `check_dryRun_unprefixed_sender`). Among the
  senders `IsHexAddress` accepts, exactly those with the prefix that spell the key's
  address in any case pass (`check_hex_sender`): the checksum case goes unchecked.
-/

namespace AnyTokenDistribution.Distributer

open Common

/-! ### `setDefaults` -/

/-- What `setDefaults` may do to `args`: fill in the chain ID with its signer, the nonce,
the gas price and the gas limit where they are `nil`, and nothing else. -/
structure FillsIn (args args' : BuildTxArgs) : Prop where
  sender : args'.sender = args.sender
  keystoreFile : args'.keystoreFile = args.keystoreFile
  passwordFile : args'.passwordFile = args.passwordFile
  keyWrapper : args'.keyWrapper = args.keyWrapper
  fromAddr : args'.fromAddr = args.fromAddr
  nonce : ∀ n ∈ args.nonce, args'.nonce = some n
  gasLimit : ∀ g ∈ args.gasLimit, args'.gasLimit = some g
  gasPrice : ∀ p ∈ args.gasPrice, args'.gasPrice = some p
  chainID : ∀ c ∈ args.chainID, args'.chainID = some c ∧ args'.chainSigner = args.chainSigner

theorem FillsIn.refl (args : BuildTxArgs) : FillsIn args args :=
  ⟨rfl, rfl, rfl, rfl, rfl, fun _ h => h, fun _ h => h, fun _ h => h, fun _ h => ⟨h, rfl⟩⟩

theorem FillsIn.trans {a b c : BuildTxArgs} (h₁ : FillsIn a b) (h₂ : FillsIn b c) : FillsIn a c where
  sender := h₂.sender.trans h₁.sender
  keystoreFile := h₂.keystoreFile.trans h₁.keystoreFile
  passwordFile := h₂.passwordFile.trans h₁.passwordFile
  keyWrapper := h₂.keyWrapper.trans h₁.keyWrapper
  fromAddr := h₂.fromAddr.trans h₁.fromAddr
  nonce n hn := h₂.nonce n (h₁.nonce n hn)
  gasLimit g hg := h₂.gasLimit g (h₁.gasLimit g hg)
  gasPrice p hp := h₂.gasPrice p (h₁.gasPrice p hp)
  chainID i hi :=
    let ⟨hb, hbs⟩ := h₁.chainID i hi
    let ⟨hc, hcs⟩ := h₂.chainID i hb
    ⟨hc, hcs.trans hbs⟩

/-- From the `n`-th call on, the node answers every query of `setDefaults`: the chain
ID, the nonce of any address and the gas price. -/
def Env.AnswersFrom (env : Env) (n : Nat) : Prop :=
  ∀ i, n ≤ i → (env.getChainID i).2 = none ∧ (∀ a, (env.getAccountNonce i a).2 = none) ∧
    (env.suggestGasPrice i).2 = none

theorem Env.AnswersFrom.mono {env : Env} {n m : Nat} (h : env.AnswersFrom n) (hnm : n ≤ m) :
    env.AnswersFrom m :=
  fun i hi => h i (hnm.trans hi)

/-- A call that only reads the node: a query of `setDefaults`. -/
def Call.isQuery : Call → Bool
  | .getChainID _ | .getAccountNonce _ _ | .suggestGasPrice _ => true
  | .signTx _ | .sendTransaction _ _ => false

/-- The trace `tr'` is `tr` followed by queries only. -/
def QueriesAfter (tr tr' : List Call) : Prop :=
  ∃ E, tr' = tr ++ E ∧ ∀ call ∈ E, call.isQuery

theorem QueriesAfter.refl (tr : List Call) : QueriesAfter tr tr :=
  ⟨[], (List.append_nil tr).symm, nofun⟩

theorem QueriesAfter.trans {a b c : List Call} (h₁ : QueriesAfter a b) (h₂ : QueriesAfter b c) :
    QueriesAfter a c := by
  obtain ⟨E₁, rfl, hq₁⟩ := h₁
  obtain ⟨E₂, rfl, hq₂⟩ := h₂
  exact ⟨E₁ ++ E₂, List.append_assoc _ _ _,
    fun call h => (List.mem_append.mp h).elim (hq₁ call) (hq₂ call)⟩

theorem QueriesAfter.length_le {tr tr' : List Call} (h : QueriesAfter tr tr') :
    tr.length ≤ tr'.length := by
  obtain ⟨E, rfl, -⟩ := h
  exact (List.prefix_append tr E).length_le

/-- What a part of the loop does with the calls, `answered` being that its query is
answered: it makes at most one call, a query; it `continue`s only after a call; and it
does not `continue` when its query is answered. -/
structure Progress (tr : List Call) (answered : Prop) (r : Bool × BuildTxArgs × List Call) :
    Prop where
  queries : QueriesAfter tr r.2.2
  length_lt : r.1 = false → tr.length < r.2.2.length
  ok : answered → r.1 = true

/-- A part that finds its value already set makes no call and goes on. -/
theorem Progress.of_set {tr : List Call} {answered : Prop} (args : BuildTxArgs) :
    Progress tr answered (true, args, tr) :=
  ⟨.refl tr, nofun, fun _ => rfl⟩

/-- A part that makes one query, and goes on when it is answered. -/
theorem Progress.of_call {tr : List Call} {answered : Prop} {ok : Bool} {args : BuildTxArgs}
    {c : Call} (hq : c.isQuery) (h : answered → ok = true) :
    Progress tr answered (ok, args, tr ++ [c]) :=
  have hlt : tr.length < (tr ++ [c]).length := by
    rw [List.length_append, List.length_singleton]
    exact Nat.lt_succ_self _
  ⟨⟨[c], rfl, fun _ h => List.mem_singleton.mp h ▸ hq⟩, fun _ => hlt, h⟩

/-- Progress from a later point of the trace, reached by queries, is progress from an
earlier one. -/
theorem Progress.after {tr tr₁ : List Call} {answered answered₁ : Prop}
    {r : Bool × BuildTxArgs × List Call} (p : Progress tr₁ answered₁ r)
    (hq : QueriesAfter tr tr₁) (ha : answered → answered₁) : Progress tr answered r :=
  ⟨hq.trans p.queries, fun h => hq.length_le.trans_lt (p.length_lt h), fun h => p.ok (ha h)⟩

/-- A failed chain-ID query answers a `nil` chain ID, as `ethclient`'s `NetworkID` does. -/
def Env.NilChainIDOnError (env : Env) : Prop :=
  ∀ i, (env.getChainID i).2.isSome → (env.getChainID i).1 = none

/-- The signer is set whenever the chain ID is: what `setDefaults` keeps where a failed
query answers a `nil` chain ID. -/
def BuildTxArgs.SignerReady (args : BuildTxArgs) : Prop :=
  args.chainID.isSome → args.chainSigner.isSome

/-- Two states with the same chain ID and signer. -/
structure SameChain (args args' : BuildTxArgs) : Prop where
  chainID : args'.chainID = args.chainID
  chainSigner : args'.chainSigner = args.chainSigner

theorem SameChain.trans {a b c : BuildTxArgs} (h₁ : SameChain a b) (h₂ : SameChain b c) :
    SameChain a c :=
  ⟨h₂.chainID.trans h₁.chainID, h₂.chainSigner.trans h₁.chainSigner⟩

theorem SameChain.signerReady {args args' : BuildTxArgs} (h : SameChain args args')
    (hr : args.SignerReady) : args'.SignerReady := by
  unfold BuildTxArgs.SignerReady
  rw [h.chainID, h.chainSigner]
  exact hr

variable (env : Env)

/-- The chain-ID part only fills in and makes progress; where a failed query answers a
`nil` chain ID, it keeps the signer ready, and set when it goes on. -/
theorem resolveChainID_spec (args : BuildTxArgs) (tr : List Call) :
    let r := args.resolveChainID env tr
    FillsIn args r.2.1 ∧ Progress tr ((env.getChainID tr.length).2 = none) r ∧
      (env.NilChainIDOnError → args.SignerReady →
        r.2.1.SignerReady ∧ (r.1 = true → r.2.1.chainSigner.isSome)) := by
  unfold BuildTxArgs.resolveChainID
  split
  · next h => exact ⟨.refl args, .of_set args, fun _ hr => ⟨hr, fun _ => hr (by simp [h])⟩⟩
  · next h =>
    have hf : ∀ c s, FillsIn args { args with chainID := c, chainSigner := s } :=
      fun _ _ => ⟨rfl, rfl, rfl, rfl, rfl, fun _ h => h, fun _ h => h, fun _ h => h, by simp [h]⟩
    dsimp only
    split
    · next hq =>
      refine ⟨hf _ _, .of_call rfl fun h' => by simp [h'] at hq, fun henv _ => ⟨fun hc => ?_, nofun⟩⟩
      simp [henv _ hq] at hc
    · exact ⟨hf _ _, .of_call rfl fun _ => rfl, fun _ _ => ⟨fun _ => rfl, fun _ => rfl⟩⟩

/-- The nonce part only fills in, leaves the nonce set unless it `continue`s, makes
progress, and leaves the chain ID and the signer. -/
theorem resolveNonce_spec (a : Address) (args : BuildTxArgs) (tr : List Call) :
    let r := args.resolveNonce env a tr
    FillsIn args r.2.1 ∧ (r.1 = true → r.2.1.nonce.isSome) ∧
      Progress tr ((env.getAccountNonce tr.length a).2 = none) r ∧ SameChain args r.2.1 := by
  unfold BuildTxArgs.resolveNonce
  split
  · next hn => exact ⟨.refl args, fun _ => by simp [hn], .of_set args, rfl, rfl⟩
  · next h =>
    dsimp only
    split
    · next hq => exact ⟨.refl args, nofun, .of_call rfl fun h' => by simp [h'] at hq, rfl, rfl⟩
    · exact ⟨⟨rfl, rfl, rfl, rfl, rfl, by simp [h], fun _ h => h, fun _ h => h, fun _ h => ⟨h, rfl⟩⟩,
        fun _ => rfl, .of_call rfl fun _ => rfl, rfl, rfl⟩

/-- The gas-price part only fills in, makes progress, and leaves the chain ID and the
signer. -/
theorem resolveGasPrice_spec (args : BuildTxArgs) (tr : List Call) :
    let r := args.resolveGasPrice env tr
    FillsIn args r.2.1 ∧ Progress tr ((env.suggestGasPrice tr.length).2 = none) r ∧
      SameChain args r.2.1 := by
  unfold BuildTxArgs.resolveGasPrice
  split
  · exact ⟨.refl args, .of_set args, rfl, rfl⟩
  · next h =>
    exact ⟨⟨rfl, rfl, rfl, rfl, rfl, fun _ h => h, fun _ h => h, by simp [h], fun _ h => ⟨h, rfl⟩⟩,
      .of_call rfl fun hq => by simp [hq], rfl, rfl⟩

/-- **One pass of the loop**: it only fills in; when it reaches `break` the nonce and the
gas limit are set; it makes progress: it `continue`s only after a call, and not when the
node answers; and where a failed chain-ID query answers a `nil` chain ID, it keeps the
signer ready, and set when it reaches `break`. -/
theorem setDefaultsPass_spec (a : Address) (args : BuildTxArgs) (tr : List Call) :
    let p := args.setDefaultsPass env a tr
    FillsIn args p.2.1 ∧ (p.1 = true → p.2.1.nonce.isSome ∧ p.2.1.gasLimit.isSome) ∧
      Progress tr (env.AnswersFrom tr.length) p ∧
      (env.NilChainIDOnError → args.SignerReady →
        p.2.1.SignerReady ∧ (p.1 = true → p.2.1.chainSigner.isSome)) := by
  simp only [BuildTxArgs.setDefaultsPass]
  obtain ⟨h₁, p₁, s₁⟩ := resolveChainID_spec env args tr
  generalize args.resolveChainID env tr = r₁ at h₁ p₁ s₁ ⊢
  obtain ⟨_ | _, a₁, t₁⟩ := r₁
  · exact ⟨h₁, nofun, p₁.after (.refl tr) fun hA => (hA _ le_rfl).1,
      fun henv hr => ⟨(s₁ henv hr).1, nofun⟩⟩
  obtain ⟨h₂, hn, p₂, c₂⟩ := resolveNonce_spec env a a₁ t₁
  generalize a₁.resolveNonce env a t₁ = r₂ at h₂ hn p₂ c₂ ⊢
  have q₁ := p₁.queries
  have l₁ := q₁.length_le
  obtain ⟨_ | _, a₂, t₂⟩ := r₂
  · exact ⟨h₁.trans h₂, nofun, p₂.after q₁ fun hA => (hA _ l₁).2.1 a,
      fun henv hr => ⟨c₂.signerReady (s₁ henv hr).1, nofun⟩⟩
  obtain ⟨h₃, p₃, c₃⟩ := resolveGasPrice_spec env a₂ t₂
  generalize a₂.resolveGasPrice env t₂ = r₃ at h₃ p₃ c₃ ⊢
  have q₂ := q₁.trans p₂.queries
  have l₂ := q₂.length_le
  have c₁₃ := c₂.trans c₃
  obtain ⟨_ | _, a₃, t₃⟩ := r₃
  · exact ⟨h₁.trans (h₂.trans h₃), nofun, p₃.after q₂ fun hA => (hA _ l₂).2.2,
      fun henv hr => ⟨c₁₃.signerReady (s₁ henv hr).1, nofun⟩⟩
  dsimp only at h₁ h₂ h₃ hn p₃ s₁ c₁₃ ⊢
  have hn₃ : a₃.nonce.isSome := by
    obtain ⟨n, hn'⟩ := Option.isSome_iff_exists.mp (hn rfl)
    simp [h₃.nonce n hn']
  have hs₃ : env.NilChainIDOnError → args.SignerReady → a₃.SignerReady ∧ a₃.chainSigner.isSome :=
    fun henv hr => ⟨c₁₃.signerReady (s₁ henv hr).1, c₁₃.chainSigner ▸ (s₁ henv hr).2 rfl⟩
  simp only [Bool.not_true, ite_false, Bool.false_eq_true]
  split
  · next hg =>
    exact ⟨h₁.trans (h₂.trans h₃), fun _ => ⟨hn₃, by simp [hg]⟩, ⟨q₂.trans p₃.queries, nofun,
      fun _ => rfl⟩,
      fun henv hr => ⟨(hs₃ henv hr).1, fun _ => (hs₃ henv hr).2⟩⟩
  · next hg =>
    exact ⟨h₁.trans (h₂.trans (h₃.trans ⟨rfl, rfl, rfl, rfl, rfl, fun _ h => h, by simp [hg],
      fun _ h => h, fun _ h => ⟨h, rfl⟩⟩)), fun _ => ⟨hn₃, rfl⟩, ⟨q₂.trans p₃.queries, nofun,
      fun _ => rfl⟩, fun henv hr => ⟨(hs₃ henv hr).1, fun _ => (hs₃ henv hr).2⟩⟩

/-- **`setDefaults`**: when the loop reaches `break`, it has only filled in, the nonce
and the gas limit are set, and every call it made is a query. -/
theorem setDefaultsLoop_spec (a : Address) (fuel : Nat) (args : BuildTxArgs) (tr : List Call)
    {args' : BuildTxArgs} {tr' : List Call}
    (h : BuildTxArgs.setDefaultsLoop env a fuel args tr = some (args', tr')) :
    FillsIn args args' ∧ (args'.nonce.isSome ∧ args'.gasLimit.isSome) ∧ QueriesAfter tr tr' := by
  induction fuel generalizing args tr with
  | zero => cases h
  | succ fuel ih =>
    obtain ⟨hf, hdone, p, -⟩ := setDefaultsPass_spec env a args tr
    simp only [BuildTxArgs.setDefaultsLoop] at h
    generalize args.setDefaultsPass env a tr = r at hf hdone p h
    obtain ⟨done, a₁, t₁⟩ := r
    cases done
    · obtain ⟨hf', hs, hq⟩ := ih a₁ t₁ h
      exact ⟨hf.trans hf', hs, p.queries.trans hq⟩
    · cases h
      exact ⟨hf, hdone rfl, p.queries⟩

/-- **The signer after `setDefaults`**: where a failed chain-ID query answers a `nil`
chain ID, a loop started with the signer ready ends with it set. -/
theorem setDefaultsLoop_signer (henv : env.NilChainIDOnError) (a : Address) (fuel : Nat)
    (args : BuildTxArgs) (tr : List Call) {args' : BuildTxArgs} {tr' : List Call}
    (hr : args.SignerReady) (h : BuildTxArgs.setDefaultsLoop env a fuel args tr = some (args', tr')) :
    args'.chainSigner.isSome := by
  induction fuel generalizing args tr with
  | zero => cases h
  | succ fuel ih =>
    obtain ⟨-, -, -, hs⟩ := setDefaultsPass_spec env a args tr
    simp only [BuildTxArgs.setDefaultsLoop] at h
    generalize args.setDefaultsPass env a tr = p at hs h
    obtain ⟨done, a₁, t₁⟩ := p
    cases done
    · exact ih a₁ t₁ (hs henv hr).1 h
    · cases h
      exact (hs henv hr).2 rfl

/-- **`setDefaults` ends once the node answers**: if every query from the `n`-th call on
is answered, the loop reaches `break` within `n - tr.length + 1` passes, since each pass
before that `continue`s after a call. -/
theorem setDefaultsLoop_isSome {n : Nat} (hA : env.AnswersFrom n) (a : Address) (fuel : Nat)
    (args : BuildTxArgs) (tr : List Call) (hfuel : n - tr.length < fuel) :
    (BuildTxArgs.setDefaultsLoop env a fuel args tr).isSome := by
  induction fuel generalizing args tr with
  | zero => omega
  | succ fuel ih =>
    obtain ⟨-, -, p, -⟩ := setDefaultsPass_spec env a args tr
    simp only [BuildTxArgs.setDefaultsLoop]
    generalize args.setDefaultsPass env a tr = r at p ⊢
    obtain ⟨_ | _, a₁, t₁⟩ := r
    · have hlt : tr.length < n := by
        by_contra hge
        exact absurd (p.ok (hA.mono (not_lt.mp hge))) Bool.false_ne_true
      have hgrow : tr.length < t₁.length := p.length_lt rfl
      exact ih a₁ t₁ (by omega)
    · rfl

/-! ### `loadKeyStore` -/

/-- **`loadKeyStore`**: it either takes the decrypted key, its address, and its printed
address as the sender if none was given; or fails, having at most cleared the key. -/
theorem loadKeyStore_spec (args : BuildTxArgs) :
    (∃ key, args.loadKeyStore env = (.ok (),
      { args with
        keyWrapper := some key, fromAddr := key.address,
        sender := if args.sender = "" then key.address.hex env.keccak256 else args.sender })) ∨
    ∃ err k, args.loadKeyStore env = (.error err, { args with keyWrapper := k }) := by
  unfold BuildTxArgs.loadKeyStore
  split
  · exact .inr ⟨_, args.keyWrapper, rfl⟩
  split
  · exact .inr ⟨_, args.keyWrapper, rfl⟩
  split
  · exact .inr ⟨_, none, rfl⟩
  · next key _ => exact .inl ⟨key, by by_cases hs : args.sender = "" <;> simp [hs]⟩

/-! ### `Check` -/

/-- A node that answers every query at once (chain ID `1`, nonce `0`, gas price `1`) and
accepts every transaction, with files that read as empty, a keystore that decrypts to
`key` and a hash of zeros: the setting of the instances of this module. -/
def Env.answering (key : Key) : Env :=
  { readFile := fun _ => .ok "", decryptKey := fun _ _ => .ok key,
    keccak256 := fun _ => List.replicate 32 0, getChainID := fun _ => (some 1, none),
    getAccountNonce := fun _ _ => (0, none), suggestGasPrice := fun _ => (some 1, none),
    sign := fun _ _ _ => .ok [], hash := fun _ => ⟨List.replicate 32 0, rfl⟩,
    sendTransaction := fun _ _ => none }

/-- Parameters with only the sender and the two files given. -/
def BuildTxArgs.ofSender (sender : String) : BuildTxArgs :=
  { sender := sender, keystoreFile := "keystore", passwordFile := "password", nonce := none,
    gasLimit := none, gasPrice := none, keyWrapper := none, fromAddr := Address.zero,
    chainID := none, chainSigner := none }

/-- The key of address `0x00000000000000000000000000000000000000ab`. -/
def keyAB : Key := ⟨⟨List.replicate 19 0 ++ [0xab], by simp⟩, 1⟩

/-- `checkSenderMatch` returns `nil` only through `setDefaults`. -/
theorem checkSenderMatch_ok {fuel : Nat} {args args' : BuildTxArgs} {tr tr' : List Call}
    (h : args.checkSenderMatch env fuel tr = some (.ok (), args', tr')) :
    args.setDefaults env fuel tr = some (args', tr') := by
  unfold BuildTxArgs.checkSenderMatch at h
  split at h
  · cases h
  · obtain ⟨⟨a, t⟩, hs, he⟩ := Option.map_eq_some'.mp h
    cases he
    exact hs

/-- **`Check` returning `nil`**: it went through `setDefaults` from a state with the
nonce, gas limit and gas price supplied, and outside a dry run with the key. -/
theorem check_ok {dryRun : Bool} {fuel : Nat} {args args' : BuildTxArgs} {tr tr' : List Call}
    (h : args.check env dryRun fuel tr = some (.ok (), args', tr')) :
    ∃ a : BuildTxArgs, a.nonce = args.nonce ∧ a.gasLimit = args.gasLimit ∧
      a.gasPrice = args.gasPrice ∧ (dryRun = false → a.keyWrapper.isSome) ∧ SameChain args a ∧
      a.setDefaults env fuel tr = some (args', tr') := by
  unfold BuildTxArgs.check at h
  split at h
  · cases h
  rcases loadKeyStore_spec env args with ⟨key, hl⟩ | ⟨err, k, hl⟩
  · rw [hl] at h
    refine ⟨_, ?_, ?_, ?_, fun _ => ?_, ⟨?_, ?_⟩, checkSenderMatch_ok env h⟩ <;> rfl
  · rw [hl] at h
    cases dryRun
    · cases h
    · simp only [Bool.not_true, Bool.false_eq_true, ite_false] at h
      split at h
      all_goals refine ⟨_, ?_, ?_, ?_, nofun, ⟨?_, ?_⟩, checkSenderMatch_ok env h⟩ <;> rfl

/-- `checkSenderMatch` fails only at the comparison, before any call. -/
theorem checkSenderMatch_error {fuel : Nat} {args args' : BuildTxArgs} {tr tr' : List Call}
    {err : TxError} (h : args.checkSenderMatch env fuel tr = some (.error err, args', tr')) :
    args' = args ∧ tr' = tr := by
  unfold BuildTxArgs.checkSenderMatch at h
  split at h
  · cases h
    exact ⟨rfl, rfl⟩
  · obtain ⟨⟨a, t⟩, -, he⟩ := Option.map_eq_some'.mp h
    cases he

/-- **A failed `Check` asks the node nothing**: whenever it returns an error, the trace
is the one it started from, and of the parameters only the key, the address and the
sender may have changed. -/
theorem check_error_frame {dryRun : Bool} {fuel : Nat} {args args' : BuildTxArgs}
    {tr tr' : List Call} {err : TxError}
    (h : args.check env dryRun fuel tr = some (.error err, args', tr')) :
    tr' = tr ∧ args' = { args with
      keyWrapper := args'.keyWrapper, fromAddr := args'.fromAddr, sender := args'.sender } := by
  unfold BuildTxArgs.check at h
  split at h
  · cases h
    exact ⟨rfl, rfl⟩
  rcases loadKeyStore_spec env args with ⟨key, hl⟩ | ⟨e, k, hl⟩
  · rw [hl] at h
    obtain ⟨rfl, rfl⟩ := checkSenderMatch_error env h
    exact ⟨rfl, rfl⟩
  · rw [hl] at h
    cases dryRun
    · cases h
      exact ⟨rfl, rfl⟩
    · simp only [Bool.not_true, Bool.false_eq_true, ite_false] at h
      split at h
      all_goals obtain ⟨rfl, rfl⟩ := checkSenderMatch_error env h; exact ⟨rfl, rfl⟩

/-- A password that does not decrypt the keystore, with a key loaded before: `Check(false)`
fails having cleared the key, and has asked the node nothing. -/
theorem check_error_frame_wrongPassword :
    let err : GoError := ⟨"could not decrypt key with given password"⟩
    let env : Env := { Env.answering keyAB with decryptKey := fun _ _ => .error err }
    let args : BuildTxArgs := { BuildTxArgs.ofSender "" with keyWrapper := some keyAB }
    let args' : BuildTxArgs := { args with keyWrapper := none }
    args.check env false 1 [] = some (.error (.loadKeyStore err), args', []) ∧
      (([] : List Call) = [] ∧ args' = { args with
        keyWrapper := args'.keyWrapper, fromAddr := args'.fromAddr, sender := args'.sender }) := by
  intro err env args args'
  have h : args.check env false 1 [] = some (.error (.loadKeyStore err), args', []) := by
    simp only [env, args, args', Env.answering, BuildTxArgs.ofSender, BuildTxArgs.check,
      BuildTxArgs.loadKeyStore, ne_eq, not_true_eq_false, false_and, if_false, Bool.not_false,
      if_true]
  exact ⟨h, check_error_frame env h⟩

/-- **What `Check` leaves**: when it returns `nil`, the parameters supplied before it are
kept, the nonce and the gas limit are set, and outside a dry run so is the key. -/
theorem check_ok_fillsIn {dryRun : Bool} {fuel : Nat} {args args' : BuildTxArgs}
    {tr tr' : List Call} (h : args.check env dryRun fuel tr = some (.ok (), args', tr')) :
    (∀ n ∈ args.nonce, args'.nonce = some n) ∧ (∀ g ∈ args.gasLimit, args'.gasLimit = some g) ∧
      (∀ p ∈ args.gasPrice, args'.gasPrice = some p) ∧ args'.nonce.isSome ∧
      args'.gasLimit.isSome ∧ (dryRun = false → args'.keyWrapper.isSome) := by
  obtain ⟨a, hn, hg, hp, hk, -, hs⟩ := check_ok env h
  obtain ⟨hf, ⟨hn', hg'⟩, -⟩ := setDefaultsLoop_spec env _ fuel a tr hs
  refine ⟨fun n h => hf.nonce n (hn ▸ h), fun g h => hf.gasLimit g (hg ▸ h),
    fun p h => hf.gasPrice p (hp ▸ h), hn', hg', fun hd => ?_⟩
  rw [hf.keyWrapper]
  exact hk hd

/-- **The signer after `Check`**: where a failed chain-ID query answers a `nil` chain ID,
`Check` returning `nil` from a state whose signer is ready leaves the signer set. -/
theorem check_ok_signer (henv : env.NilChainIDOnError) {dryRun : Bool} {fuel : Nat}
    {args args' : BuildTxArgs} {tr tr' : List Call} (hr : args.SignerReady)
    (h : args.check env dryRun fuel tr = some (.ok (), args', tr')) : args'.chainSigner.isSome := by
  obtain ⟨a, -, -, -, -, hc, hs⟩ := check_ok env h
  exact setDefaultsLoop_signer env henv _ fuel a tr (hc.signerReady hr) hs

/-- `checkSenderMatch` returns once the node answers. -/
theorem checkSenderMatch_isSome {n : Nat} (hA : env.AnswersFrom n) (fuel : Nat)
    (args : BuildTxArgs) (tr : List Call) (hfuel : n - tr.length < fuel) :
    (args.checkSenderMatch env fuel tr).isSome := by
  unfold BuildTxArgs.checkSenderMatch
  split
  · rfl
  · rw [Option.isSome_map']
    exact setDefaultsLoop_isSome env hA _ fuel args tr hfuel

/-- **`Check` returns once the node answers**: if every query from the `n`-th call on is
answered, `Check` returns, given `n - tr.length + 1` passes of the loop of `setDefaults`. -/
theorem check_isSome {n : Nat} (hA : env.AnswersFrom n) (dryRun : Bool) (fuel : Nat)
    (args : BuildTxArgs) (tr : List Call) (hfuel : n - tr.length < fuel) :
    (args.check env dryRun fuel tr).isSome := by
  unfold BuildTxArgs.check
  split
  · rfl
  split
  · split
    · rfl
    · exact checkSenderMatch_isSome env hA fuel _ tr hfuel
  · exact checkSenderMatch_isSome env hA fuel _ tr hfuel

/-- A node whose first two chain-ID queries time out: `Check` returns given three passes. -/
theorem check_isSome_third_pass :
    let env : Env := { Env.answering keyAB with
      getChainID := fun i => if i < 2 then (none, some ⟨"timeout"⟩) else (some 1, none) }
    env.AnswersFrom 2 ∧ 2 - ([] : List Call).length < 3 ∧
      ((BuildTxArgs.ofSender "").check env false 3 []).isSome := by
  intro env
  have hA : env.AnswersFrom 2 := fun i hi =>
    ⟨by simp only [env, show ¬i < 2 by omega, if_false], fun _ => rfl, rfl⟩
  exact ⟨hA, by decide, check_isSome env hA false 3 _ [] (by decide)⟩

/-! ### The sender check -/

/-- An address in lower-case hex without `0x` is a sender `IsHexAddress` accepts and
`HexToAddress` reads back, which matches no printed address: the lengths differ. -/
theorem unprefixed_hex_sender (a : Address) :
    let s : String := ⟨encodeToString a.bytes⟩
    s ≠ "" ∧ isHexAddress s ∧ hexToAddress s = a ∧
      ∀ (b : Address) keccak256, equalFold s (b.hex keccak256) = false := by
  have hlen : (encodeToString a.bytes).length = 40 := by simp [a.length_bytes]
  refine ⟨fun h => ?_, isHexAddress_encodeToString a, hexToAddress_encodeToString a, fun b k => ?_⟩
  · have h0 : (encodeToString a.bytes).length = 0 := congrArg String.length h
    omega
  · unfold equalFold
    rw [beq_eq_false_iff_ne]
    intro he
    have h42 : (encodeToString a.bytes).length = (b.hex k).length := by
      simpa only [List.length_map] using congrArg List.length he
    rw [hlen, length_hex] at h42
    omega

/-- **Printed sender, keystore read**: `Check(false)` with the sender written as
`Address.String()` of the key's address, in the checksum case of any hash, passes the
format check and the comparison, and runs `setDefaults` from the state with the key. -/
theorem check_printed_sender (fuel : Nat) (args : BuildTxArgs) (tr : List Call)
    {keyjson passdata : String} {key : Key}
    (hk : env.readFile args.keystoreFile = .ok keyjson)
    (hp : env.readFile args.passwordFile = .ok passdata)
    (hd : env.decryptKey keyjson (trimSpace passdata) = .ok key)
    (hs : args.sender = key.address.hex env.keccak256) :
    args.check env false fuel tr =
      ({ args with keyWrapper := some key, fromAddr := key.address }.setDefaults env fuel tr).map
        fun (args, tr) => (.ok (), args, tr) := by
  obtain ⟨hhex, -⟩ := hexToAddress_hex env.keccak256 key.address
  have hne : args.sender ≠ "" := fun h => by
    have h42 := length_hex env.keccak256 key.address
    rw [← hs, h] at h42
    cases h42
  have hl : args.loadKeyStore env =
      (.ok (), { args with keyWrapper := some key, fromAddr := key.address }) := by
    simp [BuildTxArgs.loadKeyStore, hk, hp, hd, hne]
  have hfold : equalFold args.sender (key.address.hex env.keccak256) = true := by
    rw [hs, equalFold, beq_self_eq_true]
  rw [← hs] at hhex
  simp [BuildTxArgs.check, hl, BuildTxArgs.checkSenderMatch, hne, hhex, hfold]

/-- The key at `0x…ab` and the sender its `Address.String()`: `Check(false)` runs
`setDefaults` with the key. -/
theorem check_printed_sender_keyAB :
    let env := Env.answering keyAB
    let args := BuildTxArgs.ofSender (keyAB.address.hex env.keccak256)
    (env.readFile args.keystoreFile = .ok "" ∧ env.readFile args.passwordFile = .ok "" ∧
      env.decryptKey "" (trimSpace "") = .ok keyAB ∧
      args.sender = keyAB.address.hex env.keccak256) ∧
    args.check env false 1 [] =
      ({ args with keyWrapper := some keyAB, fromAddr := keyAB.address }.setDefaults env 1 []).map
        fun (args, tr) => (.ok (), args, tr) := by
  intro env args
  exact ⟨⟨rfl, rfl, rfl, rfl⟩, check_printed_sender env 1 args [] rfl rfl rfl rfl⟩

/-- **Printed sender, dry run**: `Check(true)` with the keystore unreadable and the
sender written as `Address.String()` of an address takes that address, passes the
comparison, and runs `setDefaults`. -/
theorem check_dryRun_printed_sender (fuel : Nat) (args : BuildTxArgs) (tr : List Call)
    {err : GoError} {a : Address} (hk : env.readFile args.keystoreFile = .error err)
    (hs : args.sender = a.hex env.keccak256) :
    args.check env true fuel tr =
      ({ args with fromAddr := a }.setDefaults env fuel tr).map fun (args, tr) => (.ok (), args, tr) := by
  obtain ⟨hhex, ha⟩ := hexToAddress_hex env.keccak256 a
  have hne : args.sender ≠ "" := fun h => by
    have h42 := length_hex env.keccak256 a
    rw [← hs, h] at h42
    cases h42
  have hfold : equalFold args.sender (a.hex env.keccak256) = true := by
    rw [hs, equalFold, beq_self_eq_true]
  rw [← hs] at hhex ha
  simp [BuildTxArgs.check, BuildTxArgs.loadKeyStore, hk, hne, hhex, ha, BuildTxArgs.checkSenderMatch,
    hfold]

/-- An unreadable keystore and the sender `Address.String()` of `0x…ab`: `Check(true)`
takes that address and runs `setDefaults`. -/
theorem check_dryRun_printed_sender_keyAB :
    let env : Env := { Env.answering keyAB with readFile := fun _ => .error ⟨"no such file"⟩ }
    let args := BuildTxArgs.ofSender (keyAB.address.hex env.keccak256)
    (env.readFile args.keystoreFile = .error ⟨"no such file"⟩ ∧
      args.sender = keyAB.address.hex env.keccak256) ∧
    args.check env true 1 [] =
      ({ args with fromAddr := keyAB.address }.setDefaults env 1 []).map
        fun (args, tr) => (.ok (), args, tr) := by
  intro env args
  exact ⟨⟨rfl, rfl⟩, check_dryRun_printed_sender env 1 args [] rfl rfl⟩

/-- **Unprefixed sender, keystore read**: `Check(false)` with the sender written as the
key's address in hex without `0x` fails with the sender mismatch, though the sender
names the key's address. -/
theorem check_unprefixed_sender (fuel : Nat) (args : BuildTxArgs) (tr : List Call)
    {keyjson passdata : String} {key : Key}
    (hk : env.readFile args.keystoreFile = .ok keyjson)
    (hp : env.readFile args.passwordFile = .ok passdata)
    (hd : env.decryptKey keyjson (trimSpace passdata) = .ok key)
    (hs : args.sender = ⟨encodeToString key.address.bytes⟩) :
    hexToAddress args.sender = key.address ∧
    args.check env false fuel tr =
      some (.error (.senderMismatch args.sender (key.address.hex env.keccak256)),
        { args with keyWrapper := some key, fromAddr := key.address }, tr) := by
  obtain ⟨hne, hhex, ha, hfold⟩ := unprefixed_hex_sender key.address
  rw [← hs] at hne hhex ha hfold
  have hl : args.loadKeyStore env =
      (.ok (), { args with keyWrapper := some key, fromAddr := key.address }) := by
    simp [BuildTxArgs.loadKeyStore, hk, hp, hd, hne]
  refine ⟨ha, ?_⟩
  simp [BuildTxArgs.check, hl, BuildTxArgs.checkSenderMatch, hne, hhex, hfold]

/-- **Unprefixed sender, dry run**: `Check(true)` with the keystore unreadable and the
sender written as an address in hex without `0x` takes that address and then reports
it as not matching itself. -/
theorem check_dryRun_unprefixed_sender (fuel : Nat) (args : BuildTxArgs) (tr : List Call)
    {err : GoError} {a : Address} (hk : env.readFile args.keystoreFile = .error err)
    (hs : args.sender = ⟨encodeToString a.bytes⟩) :
    hexToAddress args.sender = a ∧
    args.check env true fuel tr =
      some (.error (.senderMismatch args.sender (a.hex env.keccak256)),
        { args with fromAddr := a }, tr) := by
  obtain ⟨hne, hhex, ha, hfold⟩ := unprefixed_hex_sender a
  rw [← hs] at hne hhex ha hfold
  refine ⟨ha, ?_⟩
  simp [BuildTxArgs.check, BuildTxArgs.loadKeyStore, hk, hne, hhex, ha,
    BuildTxArgs.checkSenderMatch, hfold]

/-- An unreadable keystore and the sender `00…ab`: `Check(true)` takes the address
`0x…ab` and reports it as not matching itself. -/
theorem check_dryRun_unprefixed_sender_keyAB :
    let env : Env := { Env.answering keyAB with readFile := fun _ => .error ⟨"no such file"⟩ }
    let args := BuildTxArgs.ofSender ⟨encodeToString keyAB.address.bytes⟩
    (env.readFile args.keystoreFile = .error ⟨"no such file"⟩ ∧
      args.sender = ⟨encodeToString keyAB.address.bytes⟩) ∧
    hexToAddress args.sender = keyAB.address ∧
    args.check env true 1 [] =
      some (.error (.senderMismatch args.sender (keyAB.address.hex env.keccak256)),
        { args with fromAddr := keyAB.address }, []) := by
  intro env args
  exact ⟨⟨rfl, rfl⟩, check_dryRun_unprefixed_sender env 1 args [] rfl rfl⟩

/-- **The sender check, keystore read**: for any sender that `IsHexAddress` accepts,
`Check(false)` goes on to `setDefaults` from the state with the key exactly when the
sender is `0x` or `0X` followed by the key's address in any case, its checksum case
unchecked; any other such sender is a mismatch, the key loaded and no call made. -/
theorem check_hex_sender (fuel : Nat) (args : BuildTxArgs) (tr : List Call)
    {keyjson passdata : String} {key : Key}
    (hk : env.readFile args.keystoreFile = .ok keyjson)
    (hp : env.readFile args.passwordFile = .ok passdata)
    (hd : env.decryptKey keyjson (trimSpace passdata) = .ok key)
    (hs : isHexAddress args.sender = true) :
    args.check env false fuel tr =
      if has0xPrefix args.sender.toList = true ∧ hexToAddress args.sender = key.address then
        ({ args with keyWrapper := some key, fromAddr := key.address }.setDefaults env fuel tr).map
          fun (args, tr) => (.ok (), args, tr)
      else some (.error (.senderMismatch args.sender (key.address.hex env.keccak256)),
        { args with keyWrapper := some key, fromAddr := key.address }, tr) := by
  have hne : args.sender ≠ "" := fun h => absurd hs (by rw [h]; decide)
  have hl : args.loadKeyStore env =
      (.ok (), { args with keyWrapper := some key, fromAddr := key.address }) := by
    simp [BuildTxArgs.loadKeyStore, hk, hp, hd, hne]
  have hfold := equalFold_hex_iff env.keccak256 key.address args.sender
  simp only [hs, true_and] at hfold
  by_cases hc : has0xPrefix args.sender.toList = true ∧ hexToAddress args.sender = key.address
  · rw [if_pos hc]
    simp [BuildTxArgs.check, hl, BuildTxArgs.checkSenderMatch, hne, hs, hfold.mpr hc]
  · have hf : equalFold args.sender (key.address.hex env.keccak256) = false :=
      Bool.eq_false_iff.mpr fun h => hc (hfold.mp h)
    rw [if_neg hc]
    simp [BuildTxArgs.check, hl, BuildTxArgs.checkSenderMatch, hne, hs, hf]

/-- The sender `0X00000000000000000000000000000000000000AB`, the key's address in upper
case, where `Address.String()` under a zero hash is in lower case: `Check(false)` passes
the comparison and returns `nil`. -/
theorem check_hex_sender_upper :
    let env := Env.answering keyAB
    let args := BuildTxArgs.ofSender "0X00000000000000000000000000000000000000AB"
    (env.readFile args.keystoreFile = .ok "" ∧ env.readFile args.passwordFile = .ok "" ∧
      env.decryptKey "" (trimSpace "") = .ok keyAB ∧ isHexAddress args.sender = true) ∧
    (args.check env false 1 []).map (·.1) = some (.ok ()) := by
  intro env args
  have hs : isHexAddress args.sender = true := by decide
  refine ⟨⟨rfl, rfl, rfl, hs⟩, ?_⟩
  have hc : has0xPrefix args.sender.toList = true ∧ hexToAddress args.sender = keyAB.address :=
    ⟨rfl, Address.ext (by decide)⟩
  rw [check_hex_sender env 1 args [] rfl rfl rfl hs, if_pos hc]
  rfl

/-- The sender `0000000000000000000000000000000000000001`, which `IsHexAddress` accepts,
and a keystore whose key is at that address: `Check(false)` reports a mismatch. -/
theorem check_sender_without_prefix :
    let key : Key := ⟨⟨List.replicate 19 0 ++ [1], by simp⟩, 1⟩
    let env : Env :=
      { readFile := fun _ => .ok "", decryptKey := fun _ _ => .ok key,
        keccak256 := fun _ => List.replicate 32 0, getChainID := fun _ => (some 1, none),
        getAccountNonce := fun _ _ => (0, none), suggestGasPrice := fun _ => (some 1, none),
        sign := fun _ _ _ => .ok [], hash := fun _ => ⟨List.replicate 32 0, rfl⟩,
        sendTransaction := fun _ _ => none }
    let args : BuildTxArgs :=
      { sender := "0000000000000000000000000000000000000001", keystoreFile := "keystore",
        passwordFile := "password", nonce := none, gasLimit := none, gasPrice := none,
        keyWrapper := none, fromAddr := Address.zero, chainID := none, chainSigner := none }
    isHexAddress args.sender ∧ hexToAddress args.sender = key.address ∧
      (args.check env false 1 []).map (·.1) =
        some (.error (.senderMismatch args.sender (key.address.hex env.keccak256))) := by
  intro key env args
  obtain ⟨ha, hc⟩ := check_unprefixed_sender env 1 args [] rfl rfl rfl (by decide)
  exact ⟨by decide, ha, by rw [hc]; rfl⟩

end AnyTokenDistribution.Distributer
