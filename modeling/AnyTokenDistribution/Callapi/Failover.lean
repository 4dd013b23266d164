import AnyTokenDistribution.Common.Bytes

/-!
# Failover over the RPC endpoints

`APICaller` holds one `ethclient` connection per gateway URL, in the order the URLs
were given. Every RPC method of `APICaller` (`BalanceAt`, `GetAccountNonce`,
`SendTransaction`, `GetChainID`, `SuggestGasPrice`, `SyncProgress`, `DoCall`,
`HeaderByNumber`) and the syncer's `getHeaderByNumber`, `getBlockByNumber` and
`getTransactionReceipt` run the same loop over the clients:

    for _, client := range c.clients {
        res, err = client.Method(c.context, args...)
        if err == nil {
            return
        }
    }
    return

with named results that start as the zero value and `nil`. `failover` is that loop,
and each method is `failover` applied to its own client method and zero value.
`DialServer` and the syncer's `dialServer` fill the client list (`dialAll`).

## The model

The node behind a client is an oracle: `ask t client` is what `client` answers when
the process has already made `t` client calls, so a client may answer differently
from one call to the next, and every assignment of outcomes to endpoints is some
`ask`. The loop returns its named results and the clients it called, in order.
The context is `context.Background()` and never cancels, so it is left out; so is
`LoopGetLatestBlockHeader`, which `DialServer` starts after a full dial and which
does not touch the client list.

## What is proved

`failover_spec` says what the loop returns in terms of the list of answers
(`answers`): the first answer without error and the clients up to it, or, when
every client fails, the last answer and all the clients. On an empty list no
client is asked and the result is the zero value with a `nil` error: a
`SendTransaction` over no client reports a send that never happened
(`sendTransaction_empty_gateway`). The loop returns its first results or some client's
answer (`failover_eq_init_or_answer`), so `GetChainID` answers a `nil` chain ID with every
error when its clients' `NetworkID` does (`APICaller.getChainID_nil_of_error`). `dialAll_spec` says that a dial appends the clients
of the leading run of successful dials and returns the first error.
-/

namespace AnyTokenDistribution.Callapi

open Common

variable {κ α : Type}

/-- `APICaller`: the clients, in the order of the gateway URLs, and the retry policy
of `GetCoinBalance` and `CallContract`. -/
structure APICaller (κ : Type) where
  /-- `c.clients`. -/
  clients : List κ
  /-- `c.rpcRetryCount`, a Go `int`. -/
  rpcRetryCount : Int
  /-- `c.rpcRetryInterval`, a `time.Duration`: a signed count of nanoseconds. -/
  rpcRetryInterval : Int

/-- `NewDefaultAPICaller`: no client yet, three tries a second apart. -/
def newDefaultAPICaller : APICaller κ := ⟨[], 3, 1000000000⟩

/-- `NewAPICaller(ctx, retryCount, retryInterval)`: any count and any interval are taken. -/
def newAPICaller (retryCount : Int) (retryInterval : Int) : APICaller κ :=
  ⟨[], retryCount, retryInterval⟩

/-! ### The failover loop -/

/-- The loop of every failover method: ask each client in turn and return at the
first answer without error; after the last client, return its answer. `res` holds
the named results, the zero value and `nil` until a client answers. Returns the
results and the clients asked. -/
def failover (ask : Nat → κ → α × Option GoError) (t : Nat) (res : α × Option GoError) :
    List κ → (α × Option GoError) × List κ
  | [] => (res, [])
  | client :: rest =>
    let res := ask t client
    if res.2 = none then (res, [client])
    else
      let r := failover ask (t + 1) res rest
      (r.1, client :: r.2)

/-- What the clients answer, in list order, when each is asked in turn from call `t` on. -/
def answers (ask : Nat → κ → α × Option GoError) (t : Nat) : List κ → List (α × Option GoError)
  | [] => []
  | client :: rest => ask t client :: answers ask (t + 1) rest

/-- An answer without error. -/
def Answered (r : α × Option GoError) : Bool := r.2.isNone

@[simp] theorem length_answers (ask : Nat → κ → α × Option GoError) (t : Nat) (l : List κ) :
    (answers ask t l).length = l.length := by
  induction l generalizing t with
  | nil => rfl
  | cons c l ih => simp [answers, ih]

@[simp] theorem answered_iff (r : α × Option GoError) : Answered r = true ↔ r.2 = none :=
  Option.isNone_iff_eq_none

theorem answered_eq_false {r : α × Option GoError} : Answered r = false ↔ ¬r.2 = none := by
  rw [← answered_iff, Bool.not_eq_true]

/-- When the client at position `pre.length` is the first to answer, the loop returns
its answer and has asked exactly the clients up to it. -/
theorem failover_first_answer (ask : Nat → κ → α × Option GoError) (t : Nat)
    (res : α × Option GoError) (pre : List κ) (c : κ) (post : List κ)
    (hpre : ∀ a ∈ answers ask t pre, Answered a = false) (hc : Answered (ask (t + pre.length) c)) :
    failover ask t res (pre ++ c :: post) = (ask (t + pre.length) c, pre ++ [c]) := by
  induction pre generalizing t res with
  | nil =>
    have hc : (ask t c).2 = none := by simpa using hc
    simp [failover, hc]
  | cons d pre ih =>
    have hd := answered_eq_false.mp (hpre _ (List.mem_cons_self _ _))
    have hrest : ∀ a ∈ answers ask (t + 1) pre, Answered a = false :=
      fun a ha => hpre a (List.mem_cons_of_mem _ ha)
    have ht : t + (d :: pre).length = t + 1 + pre.length := by simp; omega
    rw [ht] at hc ⊢
    simp only [List.cons_append, failover, hd, ite_false, List.append_eq, ih (t + 1) (ask t d) hrest hc]

/-- When no client answers, the loop asks them all and returns the last answer (`res`
when there is no client). -/
theorem failover_all_fail (ask : Nat → κ → α × Option GoError) (t : Nat)
    (res : α × Option GoError) (l : List κ) (hl : ∀ a ∈ answers ask t l, Answered a = false) :
    failover ask t res l = ((answers ask t l).getLastD res, l) := by
  induction l generalizing t res with
  | nil => rfl
  | cons c l ih =>
    have hc := answered_eq_false.mp (hl _ (List.mem_cons_self _ _))
    simp only [failover, answers, hc, ite_false, List.getLastD_cons,
      ih (t + 1) (ask t c) fun a ha => hl a (List.mem_cons_of_mem _ ha)]

/-- The loop ends without error exactly when some client answers, or when there is
no client and `res` carries no error. -/
theorem failover_ok_iff (ask : Nat → κ → α × Option GoError) (t : Nat) (res : α × Option GoError)
    (l : List κ) :
    (failover ask t res l).1.2 = none ↔
      (∃ a ∈ answers ask t l, Answered a) ∨ (l = [] ∧ res.2 = none) := by
  induction l generalizing t res with
  | nil => simp only [failover, answers, List.not_mem_nil, false_and, exists_false, true_and, false_or]
  | cons c l ih =>
    by_cases h : (ask t c).2 = none
    · simp only [failover, h, ite_true]
      exact iff_of_true trivial (.inl ⟨_, List.mem_cons_self _ _, (answered_iff _).mpr h⟩)
    · simp only [failover, h, ite_false, ih, answers, List.exists_mem_cons_iff, answered_iff,
        false_or, and_false, or_false, List.cons_ne_nil, false_and]

/-- Past a prefix where no client answers, the loop goes on with the rest of the list
from the last answer. -/
theorem failover_append_of_all_fail (ask : Nat → κ → α × Option GoError) (t : Nat)
    (res : α × Option GoError) (l₁ l₂ : List κ) (h : ∀ a ∈ answers ask t l₁, Answered a = false) :
    failover ask t res (l₁ ++ l₂) =
      ((failover ask (t + l₁.length) ((answers ask t l₁).getLastD res) l₂).1,
        l₁ ++ (failover ask (t + l₁.length) ((answers ask t l₁).getLastD res) l₂).2) := by
  induction l₁ generalizing t res with
  | nil => rfl
  | cons c l ih =>
    have hc := answered_eq_false.mp (h _ (List.mem_cons_self _ _))
    have ht : t + (c :: l).length = t + 1 + l.length := by simp; omega
    rw [ht]
    simp only [List.cons_append, failover, hc, ite_false, answers, List.getLastD_cons,
      List.append_eq, ih (t + 1) (ask t c) fun a ha => h a (List.mem_cons_of_mem _ ha)]

/-- If some client answers, there is a first one. -/
theorem exists_first_answer {ask : Nat → κ → α × Option GoError} {t : Nat} {l : List κ}
    (h : ∃ a ∈ answers ask t l, Answered a) :
    ∃ pre c post, l = pre ++ c :: post ∧ (∀ a ∈ answers ask t pre, Answered a = false) ∧
      Answered (ask (t + pre.length) c) := by
  induction l generalizing t with
  | nil => simp [answers] at h
  | cons d l ih =>
    by_cases hd : Answered (ask t d)
    · exact ⟨[], d, l, rfl, by simp [answers], hd⟩
    · obtain ⟨a, ha, hans⟩ := h
      rcases List.mem_cons.mp ha with rfl | ha
      · exact absurd hans hd
      obtain ⟨pre, c, post, rfl, hpre, hc⟩ := ih ⟨a, ha, hans⟩
      refine ⟨d :: pre, c, post, rfl, ?_, by simpa [Nat.add_assoc, Nat.add_comm 1] using hc⟩
      simp only [answers, List.mem_cons, forall_eq_or_imp]
      exact ⟨Bool.eq_false_iff.mpr hd, hpre⟩

/-- When no client answers, the last answer of a non-empty list carries an error. -/
theorem getLastD_answers_not_answered (ask : Nat → κ → α × Option GoError) (t : Nat)
    (d : α × Option GoError) (l : List κ) (hl : ∀ a ∈ answers ask t l, Answered a = false)
    (hne : l ≠ []) : ¬((answers ask t l).getLastD d).2 = none := by
  have hne' : answers ask t l ≠ [] := by
    intro h; exact hne (List.length_eq_zero.mp (by rw [← length_answers ask t l, h]; rfl))
  rw [List.getLastD_eq_getLast?, List.getLast?_eq_getLast _ hne']
  exact answered_eq_false.mp (hl _ (List.getLast_mem hne'))

/-- The loop returns `res` or the answer of one of the clients, asked at some call. -/
theorem failover_eq_init_or_answer (ask : Nat → κ → α × Option GoError) (t : Nat)
    (res : α × Option GoError) (l : List κ) :
    (failover ask t res l).1 = res ∨ ∃ t' client, client ∈ l ∧ (failover ask t res l).1 = ask t' client := by
  induction l generalizing t res with
  | nil => exact .inl rfl
  | cons c l ih =>
    simp only [failover]
    split
    · exact .inr ⟨t, c, List.mem_cons_self _ _, rfl⟩
    · rcases ih (t + 1) (ask t c) with h | ⟨t', client, hm, h⟩
      · exact .inr ⟨t, c, List.mem_cons_self _ _, h⟩
      · exact .inr ⟨t', client, List.mem_cons_of_mem _ hm, h⟩

/-- **Failover**: from the zero value and `nil`, the loop ends without error exactly
when there is no client or some client answers. When the client after `pre` is the
first to answer, the loop returns its answer and asks no client after it; when no
client answers, it asks them all and returns the last answer, which is the zero value
and `nil` on an empty list. -/
theorem failover_spec (ask : Nat → κ → α × Option GoError) (t : Nat) (zero : α)
    (clients : List κ) :
    ((failover ask t (zero, none) clients).1.2 = none ↔
      clients = [] ∨ ∃ a ∈ answers ask t clients, Answered a) ∧
    (∀ pre c post, clients = pre ++ c :: post → (∀ a ∈ answers ask t pre, Answered a = false) →
      Answered (ask (t + pre.length) c) →
      failover ask t (zero, none) clients = (ask (t + pre.length) c, pre ++ [c])) ∧
    ((∀ a ∈ answers ask t clients, Answered a = false) →
      failover ask t (zero, none) clients = ((answers ask t clients).getLastD (zero, none), clients)) := by
  refine ⟨?_, fun pre c post h => h ▸ failover_first_answer ask t _ pre c post,
    failover_all_fail ask t _ clients⟩
  rw [failover_ok_iff]
  simp only [and_true]
  exact or_comm

/-! ### The failover methods -/

section Methods

variable (c : APICaller κ) (t : Nat)

/-- `ethereum.CallMsg` as `CallContract` fills it: the contract and the call data. -/
structure CallMsg where
  /-- `To`. -/
  toAddr : Address
  /-- `Data`. -/
  data : List UInt8

/-- `APICaller.BalanceAt`: `client.BalanceAt(c.context, account, blockNumber)`. -/
def APICaller.balanceAt (clientBalanceAt : Nat → κ → Address → Option Int → Option Int × Option GoError)
    (account : Address) (blockNumber : Option Int) : (Option Int × Option GoError) × List κ :=
  failover (fun t client => clientBalanceAt t client account blockNumber) t (none, none) c.clients

/-- `APICaller.GetAccountNonce`: `client.PendingNonceAt(c.context, account)`. -/
def APICaller.getAccountNonce (pendingNonceAt : Nat → κ → Address → UInt64 × Option GoError)
    (account : Address) : (UInt64 × Option GoError) × List κ :=
  failover (fun t client => pendingNonceAt t client account) t (0, none) c.clients

/-- `APICaller.SendTransaction`: `client.SendTransaction(c.context, tx)`; only the error
comes back. -/
def APICaller.sendTransaction {Tx : Type} (clientSendTransaction : Nat → κ → Tx → Option GoError)
    (tx : Tx) : Option GoError × List κ :=
  let r := failover (fun t client => ((), clientSendTransaction t client tx)) t ((), none) c.clients
  (r.1.2, r.2)

/-- `APICaller.GetChainID`: `client.NetworkID(c.context)`. -/
def APICaller.getChainID (networkID : Nat → κ → Option Int × Option GoError) :
    (Option Int × Option GoError) × List κ :=
  failover networkID t (none, none) c.clients

/-- `GetChainID` answers a `nil` chain ID with every error when each client's `NetworkID`
does, as `ethclient`'s does; over no client it answers `nil` with no error. -/
theorem APICaller.getChainID_nil_of_error (networkID : Nat → κ → Option Int × Option GoError)
    (hnet : ∀ t client, (networkID t client).2.isSome → (networkID t client).1 = none) :
    (c.getChainID t networkID).1.2.isSome → (c.getChainID t networkID).1.1 = none := by
  rcases failover_eq_init_or_answer networkID t (none, none) c.clients with h | ⟨t', client, -, h⟩ <;>
    rw [APICaller.getChainID, h]
  · exact fun _ => rfl
  · exact hnet t' client

/-- `APICaller.SuggestGasPrice`: `client.SuggestGasPrice(c.context)`. -/
def APICaller.suggestGasPrice (clientSuggestGasPrice : Nat → κ → Option Int × Option GoError) :
    (Option Int × Option GoError) × List κ :=
  failover clientSuggestGasPrice t (none, none) c.clients

/-- `APICaller.SyncProgress`: `client.SyncProgress(c.context)`, a `*ethereum.SyncProgress`. -/
def APICaller.syncProgress {Progress : Type}
    (clientSyncProgress : Nat → κ → Option Progress × Option GoError) :
    (Option Progress × Option GoError) × List κ :=
  failover clientSyncProgress t (none, none) c.clients

/-- `APICaller.DoCall`: `client.CallContract(c.context, *msg, blockNumber)`. -/
def APICaller.doCall (callContract : Nat → κ → CallMsg → Option Int → List UInt8 × Option GoError)
    (msg : CallMsg) (blockNumber : Option Int) : (List UInt8 × Option GoError) × List κ :=
  failover (fun t client => callContract t client msg blockNumber) t ([], none) c.clients

/-- `APICaller.HeaderByNumber`: `client.HeaderByNumber(c.context, blockNumber)`. -/
def APICaller.headerByNumber {Header : Type}
    (clientHeaderByNumber : Nat → κ → Option Int → Option Header × Option GoError)
    (blockNumber : Option Int) : (Option Header × Option GoError) × List κ :=
  failover (fun t client => clientHeaderByNumber t client blockNumber) t (none, none) c.clients

end Methods

/-- The syncer's `getHeaderByNumber`, over its package-level `clients`. -/
def getHeaderByNumber {Header : Type} (clients : List κ)
    (headerByNumber : Nat → κ → Option Int → Option Header × Option GoError) (t : Nat)
    (number : Option Int) : (Option Header × Option GoError) × List κ :=
  failover (fun t client => headerByNumber t client number) t (none, none) clients

/-- The syncer's `getBlockByNumber`. -/
def getBlockByNumber {Block : Type} (clients : List κ)
    (blockByNumber : Nat → κ → Option Int → Option Block × Option GoError) (t : Nat)
    (number : Option Int) : (Option Block × Option GoError) × List κ :=
  failover (fun t client => blockByNumber t client number) t (none, none) clients

/-- The syncer's `getTransactionReceipt`. -/
def getTransactionReceipt {Receipt : Type} (clients : List κ)
    (transactionReceipt : Nat → κ → Hash → Option Receipt × Option GoError) (t : Nat)
    (txHash : Hash) : (Option Receipt × Option GoError) × List κ :=
  failover (fun t client => transactionReceipt t client txHash) t (none, none) clients

/-- A gateway dialled from no URL: every endpoint would refuse, yet `SendTransaction`
returns a `nil` error without having asked anyone. -/
theorem sendTransaction_empty_gateway :
    (newDefaultAPICaller : APICaller Nat).sendTransaction 0
      (fun _ _ (_ : Unit) => some ⟨"connection refused"⟩) () = (none, []) := rfl

/-! ### Dialling -/

/-- The loop of `APICaller.DialServer` and of the syncer's `dialServer`: dial each URL
in turn and append its client; at the first error, return it, the clients of the URLs
before it already appended. `dial t url` is what `ethclient.Dial(url)` gives for the
`t`-th dial. -/
def dialAll (dial : Nat → String → Except GoError κ) (t : Nat) (clients : List κ) :
    List String → List κ × Option GoError
  | [] => (clients, none)
  | url :: rest =>
    match dial t url with
    | .error err => (clients, some err)
    | .ok client => dialAll dial (t + 1) (clients ++ [client]) rest

/-- `APICaller.DialServer`. -/
def APICaller.dialServer (c : APICaller κ) (dial : Nat → String → Except GoError κ)
    (serverURL : List String) : APICaller κ × Option GoError :=
  let r := dialAll dial 0 c.clients serverURL
  ({ c with clients := r.1 }, r.2)

/-- The syncer's `dialServer`, on its package-level `clients` and `serverURL`. -/
def dialServer (clients : List κ) (dial : Nat → String → Except GoError κ)
    (serverURL : List String) : List κ × Option GoError :=
  dialAll dial 0 clients serverURL

/-- The outcomes of dialling the URLs in turn, from dial `t` on. -/
def dialOutcomes (dial : Nat → String → Except GoError κ) (t : Nat) :
    List String → List (Except GoError κ)
  | [] => []
  | url :: rest => dial t url :: dialOutcomes dial (t + 1) rest

/-- **Dialling**: the client list grows by the clients of the leading run of
successful dials, and the error returned is that of the first failed dial (`nil`
when every URL dials). -/
theorem dialAll_spec (dial : Nat → String → Except GoError κ) (t : Nat) (clients : List κ)
    (urls : List String) :
    dialAll dial t clients urls =
      (clients ++ ((dialOutcomes dial t urls).takeWhile Except.toBool).filterMap Except.toOption,
        ((dialOutcomes dial t urls).find? (fun r => !r.toBool)).bind
          fun r => match r with | .error e => some e | .ok _ => none) := by
  induction urls generalizing t clients with
  | nil => simp [dialAll, dialOutcomes]
  | cons url rest ih =>
    cases h : dial t url with
    | error e => simp [dialAll, dialOutcomes, h, Except.toBool]
    | ok k => simp [dialAll, dialOutcomes, h, Except.toBool, Except.toOption, ih]

/-- Two URLs, the second refused: `DialServer` returns the error with the first
client already appended. -/
theorem dialServer_second_url_refused :
    let r := (newDefaultAPICaller : APICaller Nat).dialServer
      (fun t _ => if t = 0 then .ok 7 else .error ⟨"connection refused"⟩) ["a", "b"]
    r.1.clients = [7] ∧ r.2 = some ⟨"connection refused"⟩ := ⟨rfl, rfl⟩

end AnyTokenDistribution.Callapi
