import AnyTokenDistribution.Callapi.Failover

/-!
# Retrying a failover pass

`GetCoinBalance` and `CallContract` wrap a failover pass (`BalanceAt`, `DoCall`) in

    for i := 0; i < c.rpcRetryCount; i++ {
        res, err = c.Pass(...)
        if err == nil {
            break
        }
        // CallContract only: time.Sleep(c.rpcRetryInterval)
    }

`retryRounds` is that loop. `GetCoinBalance` never pauses and returns `nil` with the
error of the last round; `CallContract` sleeps after every failed round, the last one
included, and returns the last round's result as it is.

## What is proved

`retryRounds_failover`: the rounds ask the clients as one failover pass over the
client list repeated `rpcRetryCount` times (`rounds`), round after round, in list
order within a round. So what `failover_first_answer`, `failover_all_fail` and
`failover_ok_iff` say of one pass carries over to the retry loops
(`getCoinBalance_callContract_spec`). A count of zero or less, like an empty
client list, makes no call at all and ends with `nil` and no error.

The pauses of a run (`sleeps`) follow the failed rounds: when the first `k` rounds fail,
the loop pauses once after each, and a round after them that answers gives the result
(`retryRounds_sleeps`). So `CallContract` sleeps `rpcRetryInterval` exactly `k` times
before an answer in round `k + 1`, and `rpcRetryCount` times when every round fails
(`callContract_sleeps`); `GetCoinBalance` never sleeps (`getCoinBalance_sleeps`), so its
retries of a balance query follow each other without the pause `rpcRetryInterval`.

`GetSyncProgress` retries `SyncProgress` with no bound, here on `fuel` rounds. It is
the same loop with the progress returned only on an answer (`getSyncProgress_eq`), so
it returns the first answer of the repeated pass (`getSyncProgress_spec`), and it
returns once the clients answer: a round that fails asks every client, so if every
call from the `m`-th on is answered, `m - t + 1` rounds suffice
(`getSyncProgress_isSome`). Over no client it returns a `nil` progress at once, as for a
node that is not syncing (`getSyncProgress_no_clients`).
-/

namespace AnyTokenDistribution.Callapi

open Common

variable {κ α : Type}

/-- What a retry loop does, in order: ask a client, or sleep. -/
inductive Event (κ : Type) where
  /-- One client call. -/
  | call (client : κ)
  /-- `time.Sleep(d)`, `d` in nanoseconds. -/
  | sleep (d : Int)

/-- The client asked, if the event is a call. -/
def Event.client? : Event κ → Option κ
  | .call client => some client
  | .sleep _ => none

/-- The client calls of a trace, in order. -/
def calls (evs : List (Event κ)) : List κ := evs.filterMap Event.client?

@[simp] theorem calls_append (e₁ e₂ : List (Event κ)) : calls (e₁ ++ e₂) = calls e₁ ++ calls e₂ :=
  List.filterMap_append _ _ _

@[simp] theorem calls_nil : calls ([] : List (Event κ)) = [] := rfl

@[simp] theorem calls_cons_call (c : κ) (evs : List (Event κ)) :
    calls (.call c :: evs) = c :: calls evs := rfl

@[simp] theorem calls_map_call (l : List κ) : calls (l.map .call) = l := by
  induction l <;> simp_all

@[simp] theorem calls_sleep (p : Option Int) : calls (p.toList.map .sleep : List (Event κ)) = [] := by
  cases p <;> rfl

/-- The pauses of a trace, in order. -/
def sleeps (evs : List (Event κ)) : List Int :=
  evs.filterMap fun
    | .sleep d => some d
    | .call _ => none

@[simp] theorem sleeps_append (e₁ e₂ : List (Event κ)) : sleeps (e₁ ++ e₂) = sleeps e₁ ++ sleeps e₂ :=
  List.filterMap_append _ _ _

@[simp] theorem sleeps_map_call (l : List κ) : sleeps (l.map .call) = [] := by
  induction l <;> simp_all [sleeps]

@[simp] theorem sleeps_pause (p : Option Int) : sleeps (p.toList.map .sleep : List (Event κ)) = p.toList := by
  cases p <;> rfl

/-- The `for i := 0; i < c.rpcRetryCount; i++` loop around one failover pass:
`pass t` is the pass started after `t` client calls, `pause` the sleep after a failed
round. `res` holds the named results. -/
def retryRounds (pass : Nat → (α × Option GoError) × List κ) (pause : Option Int) :
    Nat → Nat → α × Option GoError → (α × Option GoError) × List (Event κ)
  | 0, _, res => (res, [])
  | n + 1, t, _ =>
    let r := pass t
    if r.1.2 = none then (r.1, r.2.map .call)
    else
      let rest := retryRounds pass pause n (t + r.2.length) r.1
      (rest.1, r.2.map .call ++ pause.toList.map .sleep ++ rest.2)

/-- The clients of `n` rounds, round after round. -/
def rounds (n : Nat) (clients : List κ) : List κ := (List.replicate n clients).flatten

@[simp] theorem rounds_zero (clients : List κ) : rounds 0 clients = [] := rfl

theorem rounds_succ (n : Nat) (clients : List κ) :
    rounds (n + 1) clients = clients ++ rounds n clients := rfl

@[simp] theorem rounds_nil (n : Nat) : rounds n ([] : List κ) = [] := by
  simp [rounds]

/-- **The rounds are one pass over the repeated list**: over a non-empty client list,
`n` rounds return what one failover pass over `rounds n clients` returns, and ask the
same clients in the same order. -/
theorem retryRounds_failover (ask : Nat → κ → α × Option GoError) (init : α × Option GoError)
    (pause : Option Int) (clients : List κ) (hne : clients ≠ []) (n t : Nat)
    (res : α × Option GoError) :
    (retryRounds (fun t => failover ask t init clients) pause n t res).1 =
        (failover ask t res (rounds n clients)).1 ∧
      calls (retryRounds (fun t => failover ask t init clients) pause n t res).2 =
        (failover ask t res (rounds n clients)).2 := by
  induction n generalizing t res with
  | zero => simp [retryRounds, failover, calls]
  | succ n ih =>
    rw [rounds_succ]
    by_cases h : ∃ a ∈ answers ask t clients, Answered a
    · obtain ⟨pre, c, post, rfl, hpre, hc⟩ := exists_first_answer h
      have hok : (ask (t + pre.length) c).2 = none := by simpa using hc
      rw [List.append_assoc, List.cons_append]
      simp [retryRounds, failover_first_answer ask t init pre c post hpre hc, hok,
        failover_first_answer ask t res pre c _ hpre hc]
    · have hall : ∀ a ∈ answers ask t clients, Answered a = false :=
        fun a ha => Bool.eq_false_iff.mpr fun hh => h ⟨a, ha, hh⟩
      -- over a non-empty list the last answer does not depend on the default
      obtain ⟨d, l, rfl⟩ := List.exists_cons_of_ne_nil hne
      have hlast : (answers ask t (d :: l)).getLastD res = (answers ask t (d :: l)).getLastD init := by
        simp only [answers, List.getLastD_cons]
      have hfail := getLastD_answers_not_answered ask t init _ hall (List.cons_ne_nil d l)
      obtain ⟨ih₁, ih₂⟩ := ih (t + (d :: l).length) ((answers ask t (d :: l)).getLastD init)
      simp only [retryRounds, failover_all_fail ask t init (d :: l) hall, hfail, ite_false,
        failover_append_of_all_fail ask t res (d :: l) _ hall, hlast, calls_append,
        calls_map_call, calls_sleep, List.append_nil, ih₁, ih₂, true_and]

/-- From named results without error, the retry loop behaves as one failover pass
over the repeated list: no error exactly when no call is made or some call answers;
the first answer and the calls up to it; or the last answer and every call. -/
theorem retryRounds_spec (ask : Nat → κ → α × Option GoError) (init : α × Option GoError)
    (hinit : init.2 = none) (pause : Option Int) (clients : List κ) (n t : Nat) :
    let R := retryRounds (fun t => failover ask t init clients) pause n t init
    let L := rounds n clients
    (R.1.2 = none ↔ L = [] ∨ ∃ a ∈ answers ask t L, Answered a) ∧
    (∀ pre d post, L = pre ++ d :: post → (∀ a ∈ answers ask t pre, Answered a = false) →
      Answered (ask (t + pre.length) d) → R.1 = ask (t + pre.length) d ∧ calls R.2 = pre ++ [d]) ∧
    ((∀ a ∈ answers ask t L, Answered a = false) →
      R.1 = (answers ask t L).getLastD init ∧ calls R.2 = L) := by
  have hR : (retryRounds (fun t => failover ask t init clients) pause n t init).1 =
        (failover ask t init (rounds n clients)).1 ∧
      calls (retryRounds (fun t => failover ask t init clients) pause n t init).2 =
        (failover ask t init (rounds n clients)).2 := by
    by_cases hne : clients = []
    · subst hne
      cases n <;> simp [retryRounds, failover, hinit]
    · exact retryRounds_failover ask init pause clients hne n t init
  dsimp only
  rw [hR.1, hR.2]
  refine ⟨?_, fun pre d post hL hpre hd => ?_, fun hall => ?_⟩
  · rw [failover_ok_iff]
    simp only [hinit, and_true]
    exact or_comm
  · rw [hL, failover_first_answer ask t init pre d post hpre hd]
    exact ⟨rfl, rfl⟩
  · rw [failover_all_fail ask t init _ hall]
    exact ⟨rfl, rfl⟩

/-- **Pauses between rounds**: over a non-empty client list, when the first `k` of the
`n` rounds allowed fail, the loop pauses once after each of them; when a round follows
them and answers, the loop returns its result. With `k = n` every round fails and the
loop pauses after each, the last one included. -/
theorem retryRounds_sleeps (ask : Nat → κ → α × Option GoError) (init : α × Option GoError)
    (pause : Option Int) (clients : List κ) (hne : clients ≠ []) (k : Nat) :
    ∀ n t res, k ≤ n →
      (∀ j < k, (failover ask (t + j * clients.length) init clients).1.2 ≠ none) →
      (k < n → (failover ask (t + k * clients.length) init clients).1.2 = none) →
      let R := retryRounds (fun t => failover ask t init clients) pause n t res
      (k < n → R.1 = (failover ask (t + k * clients.length) init clients).1) ∧
        sleeps R.2 = (List.replicate k pause.toList).flatten := by
  induction k with
  | zero =>
    rintro (_ | n) t res - - hok
    · exact ⟨fun h => absurd h (Nat.lt_irrefl 0), rfl⟩
    have h := hok (Nat.succ_pos n)
    simp only [Nat.zero_mul, Nat.add_zero] at h
    simp [retryRounds, h]
  | succ k ih =>
    rintro (_ | n) t res hk hfail hok
    · omega
    have h0 := hfail 0 (Nat.succ_pos k)
    simp only [Nat.zero_mul, Nat.add_zero] at h0
    have hall : ∀ a ∈ answers ask t clients, Answered a = false := fun a ha =>
      Bool.eq_false_iff.mpr fun h => h0 ((failover_ok_iff ask t init clients).mpr (.inl ⟨a, ha, h⟩))
    have hshift : ∀ j, t + clients.length + j * clients.length = t + (j + 1) * clients.length :=
      fun j => by rw [Nat.succ_mul]; omega
    obtain ⟨h₁, h₂⟩ := ih n (t + clients.length) ((answers ask t clients).getLastD init) (by omega)
      (fun j hj => hshift j ▸ hfail (j + 1) (by omega)) (fun h => hshift k ▸ hok (by omega))
    simp only [retryRounds, failover_all_fail ask t init clients hall,
      getLastD_answers_not_answered ask t init clients hall hne, ite_false]
    refine ⟨fun h => by rw [h₁ (by omega), hshift], ?_⟩
    simp only [sleeps_append, sleeps_map_call, sleeps_pause, h₂, List.replicate_succ,
      List.flatten_cons, List.nil_append]

section Methods

variable (c : APICaller κ) (t : Nat)

/-- `APICaller.GetCoinBalance`: rounds of `BalanceAt` with no pause; `nil` and the
error if the last round failed. -/
def APICaller.getCoinBalance
    (clientBalanceAt : Nat → κ → Address → Option Int → Option Int × Option GoError)
    (account : Address) (blockNumber : Option Int) : (Option Int × Option GoError) × List (Event κ) :=
  let r := retryRounds (fun t => c.balanceAt t clientBalanceAt account blockNumber) none
    c.rpcRetryCount.toNat t (none, none)
  match r.1.2 with
  | some err => ((none, some err), r.2)
  | none => ((r.1.1, none), r.2)

/-- `APICaller.CallContract`: rounds of `DoCall` on `{To: &contract, Data: data}`,
sleeping `rpcRetryInterval` after each failed round. -/
def APICaller.callContract
    (clientCallContract : Nat → κ → CallMsg → Option Int → List UInt8 × Option GoError)
    (contract : Address) (data : List UInt8) (blockNumber : Option Int) :
    (List UInt8 × Option GoError) × List (Event κ) :=
  let msg : CallMsg := ⟨contract, data⟩
  retryRounds (fun t => c.doCall t clientCallContract msg blockNumber) (some c.rpcRetryInterval)
    c.rpcRetryCount.toNat t ([], none)

/-- `GetCoinBalance` is its retry loop, the balance replaced by `nil` on error. -/
theorem getCoinBalance_eq
    (clientBalanceAt : Nat → κ → Address → Option Int → Option Int × Option GoError)
    (account : Address) (blockNumber : Option Int) :
    c.getCoinBalance t clientBalanceAt account blockNumber =
      let R := retryRounds (fun t => failover (fun t client => clientBalanceAt t client account
        blockNumber) t (none, none) c.clients) none c.rpcRetryCount.toNat t (none, none)
      ((if R.1.2 = none then R.1.1 else none, R.1.2), R.2) := by
  simp only [APICaller.getCoinBalance, APICaller.balanceAt]
  split <;> simp_all

/-- What `CallContract` returns: its loop is `retryRounds` over `DoCall` from no result
and no error. -/
theorem callContract_spec
    (clientCallContract : Nat → κ → CallMsg → Option Int → List UInt8 × Option GoError)
    (contract : Address) (data : List UInt8) (blockNumber : Option Int) :
    let L := rounds c.rpcRetryCount.toNat c.clients
    let ask := fun t client => clientCallContract t client ⟨contract, data⟩ blockNumber
    let r := c.callContract t clientCallContract contract data blockNumber
    (r.1.2 = none ↔ L = [] ∨ ∃ a ∈ answers ask t L, Answered a) ∧
      (∀ pre d post, L = pre ++ d :: post → (∀ a ∈ answers ask t pre, Answered a = false) →
        Answered (ask (t + pre.length) d) → r.1 = ask (t + pre.length) d ∧ calls r.2 = pre ++ [d]) ∧
      ((∀ a ∈ answers ask t L, Answered a = false) →
        r.1 = (answers ask t L).getLastD ([], none) ∧ calls r.2 = L) :=
  retryRounds_spec _ ([], none) rfl _ c.clients c.rpcRetryCount.toNat t

/-- **Retries**: over any count and any client list, `GetCoinBalance` and
`CallContract` ask the clients as one failover pass over `rounds rpcRetryCount
clients`. They end without error exactly when that list is empty (a count of zero or
less, or no client) or some call answers; then they return the first answer (its value
and `nil`) and make no call after it. When every call fails they make them all and
return the last error, `GetCoinBalance` with a `nil` balance and `CallContract` with
the last result. -/
theorem getCoinBalance_callContract_spec
    (clientBalanceAt : Nat → κ → Address → Option Int → Option Int × Option GoError)
    (account : Address) (blockNumber : Option Int)
    (clientCallContract : Nat → κ → CallMsg → Option Int → List UInt8 × Option GoError)
    (contract : Address) (data : List UInt8) :
    let L := rounds c.rpcRetryCount.toNat c.clients
    let ask := fun t client => clientBalanceAt t client account blockNumber
    let r := c.getCoinBalance t clientBalanceAt account blockNumber
    let ask' := fun t client => clientCallContract t client ⟨contract, data⟩ blockNumber
    let r' := c.callContract t clientCallContract contract data blockNumber
    ((r.1.2 = none ↔ L = [] ∨ ∃ a ∈ answers ask t L, Answered a) ∧
      (∀ pre d post, L = pre ++ d :: post → (∀ a ∈ answers ask t pre, Answered a = false) →
        Answered (ask (t + pre.length) d) →
        r.1 = ((ask (t + pre.length) d).1, none) ∧ calls r.2 = pre ++ [d]) ∧
      ((∀ a ∈ answers ask t L, Answered a = false) →
        r.1 = (none, ((answers ask t L).getLastD (none, none)).2) ∧ calls r.2 = L)) ∧
    ((r'.1.2 = none ↔ L = [] ∨ ∃ a ∈ answers ask' t L, Answered a) ∧
      (∀ pre d post, L = pre ++ d :: post → (∀ a ∈ answers ask' t pre, Answered a = false) →
        Answered (ask' (t + pre.length) d) → r'.1 = ask' (t + pre.length) d ∧ calls r'.2 = pre ++ [d]) ∧
      ((∀ a ∈ answers ask' t L, Answered a = false) →
        r'.1 = (answers ask' t L).getLastD ([], none) ∧ calls r'.2 = L)) := by
  dsimp only
  obtain ⟨h₁, h₂, h₃⟩ := retryRounds_spec (fun t client => clientBalanceAt t client account blockNumber)
    (none, none) rfl none c.clients c.rpcRetryCount.toNat t
  refine ⟨?_, callContract_spec c t clientCallContract contract data blockNumber⟩
  rw [getCoinBalance_eq]
  dsimp only at h₁ h₂ h₃ ⊢
  refine ⟨?_, fun pre d post hL hpre hd => ?_, fun hall => ?_⟩
  · rw [← h₁]
  · obtain ⟨e₁, e₂⟩ := h₂ pre d post hL hpre hd
    have hnone : (clientBalanceAt (t + pre.length) d account blockNumber).2 = none := by simpa using hd
    simp [e₁, e₂, hnone]
  · obtain ⟨e₁, e₂⟩ := h₃ hall
    refine ⟨?_, e₂⟩
    rw [e₁]
    by_cases hL : rounds c.rpcRetryCount.toNat c.clients = []
    · simp [hL, answers]
    · rw [if_neg (getLastD_answers_not_answered _ _ _ _ hall hL)]

/-- A retry count of `0` over a failing endpoint: no call is made and both loops end
with a `nil` result and a `nil` error. -/
theorem getCoinBalance_callContract_zero_retries :
    (⟨[0], 0, 1000000000⟩ : APICaller Nat).getCoinBalance 0
        (fun _ _ _ _ => (none, some ⟨"timeout"⟩)) Address.zero none = ((none, none), []) ∧
      (⟨[0], 0, 1000000000⟩ : APICaller Nat).callContract 0
        (fun _ _ _ _ => ([], some ⟨"timeout"⟩)) Address.zero [] none = (([], none), []) :=
  ⟨rfl, rfl⟩

/-- **Delays of `CallContract`**: over a non-empty client list, when `DoCall` fails in
the first `k` of the `rpcRetryCount` rounds, `CallContract` sleeps `rpcRetryInterval`
once after each of them; when the next round answers, it returns that answer. -/
theorem callContract_sleeps (hne : c.clients ≠ [])
    (clientCallContract : Nat → κ → CallMsg → Option Int → List UInt8 × Option GoError)
    (contract : Address) (data : List UInt8) (blockNumber : Option Int) (k : Nat)
    (hk : k ≤ c.rpcRetryCount.toNat)
    (hfail : ∀ j < k,
      (c.doCall (t + j * c.clients.length) clientCallContract ⟨contract, data⟩ blockNumber).1.2 ≠ none)
    (hok : k < c.rpcRetryCount.toNat →
      (c.doCall (t + k * c.clients.length) clientCallContract ⟨contract, data⟩ blockNumber).1.2 = none) :
    let r := c.callContract t clientCallContract contract data blockNumber
    (k < c.rpcRetryCount.toNat →
      r.1 = (c.doCall (t + k * c.clients.length) clientCallContract ⟨contract, data⟩ blockNumber).1) ∧
      sleeps r.2 = List.replicate k c.rpcRetryInterval := by
  obtain ⟨h₁, h₂⟩ := retryRounds_sleeps _ _ (some c.rpcRetryInterval) c.clients hne k _ t ([], none)
    hk hfail hok
  exact ⟨h₁, h₂.trans List.flatten_replicate_singleton⟩

/-- One endpoint that times out twice, then answers: with three tries a second apart,
`CallContract` sleeps a second twice and returns the third round's answer. -/
theorem callContract_sleeps_twice :
    let c : APICaller Nat := ⟨[0], 3, 1000000000⟩
    let clientCallContract : Nat → Nat → CallMsg → Option Int → List UInt8 × Option GoError :=
      fun t _ _ _ => if t < 2 then ([], some ⟨"timeout"⟩) else ([1], none)
    let doCall := fun t => c.doCall t clientCallContract ⟨Address.zero, []⟩ none
    let r := c.callContract 0 clientCallContract Address.zero [] none
    (c.clients ≠ [] ∧ 2 ≤ c.rpcRetryCount.toNat ∧
      (∀ j < 2, (doCall (0 + j * c.clients.length)).1.2 ≠ none) ∧
      (2 < c.rpcRetryCount.toNat → (doCall (0 + 2 * c.clients.length)).1.2 = none)) ∧
    (2 < c.rpcRetryCount.toNat → r.1 = (doCall (0 + 2 * c.clients.length)).1) ∧
      sleeps r.2 = List.replicate 2 c.rpcRetryInterval := by
  intro c clientCallContract doCall r
  have hne : c.clients ≠ [] := nofun
  have hfail : ∀ j < 2, (doCall (0 + j * c.clients.length)).1.2 ≠ none := by decide
  have hok : 2 < c.rpcRetryCount.toNat → (doCall (0 + 2 * c.clients.length)).1.2 = none :=
    fun _ => rfl
  exact ⟨⟨hne, by decide, hfail, hok⟩,
    callContract_sleeps c 0 hne clientCallContract Address.zero [] none 2 (by decide) hfail hok⟩

end Methods

/-! ### `GetSyncProgress` -/

section SyncProgress

variable {Progress : Type}

/-- `APICaller.GetSyncProgress`, given `fuel` rounds: `SyncProgress` round after round,
sleeping `rpcRetryInterval` after each failed one, until a round answers, whose progress
it returns; `none` when the rounds run out, where the source's `for` loop goes on. -/
def APICaller.getSyncProgress (c : APICaller κ) (clientSyncProgress : Nat → κ → Option Progress × Option GoError) :
    Nat → Nat → Option (Option Progress) × List (Event κ)
  | 0, _ => (none, [])
  | fuel + 1, t =>
    let r := c.syncProgress t clientSyncProgress
    if r.1.2 = none then (some r.1.1, r.2.map .call)
    else
      let rest := c.getSyncProgress clientSyncProgress fuel (t + r.2.length)
      (rest.1, r.2.map .call ++ [.sleep c.rpcRetryInterval] ++ rest.2)

/-- `GetSyncProgress` is the retry loop of `CallContract` with no bound on the rounds, the
progress returned only when a round answers. `res` is any result with an error. -/
theorem getSyncProgress_eq (c : APICaller κ) (ask : Nat → κ → Option Progress × Option GoError) (fuel t : Nat)
    {res : Option Progress × Option GoError} (hres : res.2 ≠ none) :
    c.getSyncProgress ask fuel t =
      let R := retryRounds (fun t => failover ask t (none, none) c.clients)
        (some c.rpcRetryInterval) fuel t res
      (if R.1.2 = none then some R.1.1 else none, R.2) := by
  induction fuel generalizing t res with
  | zero => simp [APICaller.getSyncProgress, retryRounds, hres]
  | succ fuel ih =>
    simp only [APICaller.getSyncProgress, APICaller.syncProgress, retryRounds]
    split
    · next h => simp [h]
    · next h =>
      rw [ih _ h]
      simp [h]

/-- **What `GetSyncProgress` returns**: over a non-empty client list, it returns when
some call of the repeated failover pass answers, the first such answer, having asked
the clients up to it and no other. -/
theorem getSyncProgress_spec (c : APICaller κ) (hne : c.clients ≠ [])
    (ask : Nat → κ → Option Progress × Option GoError) (fuel t : Nat) :
    let r := c.getSyncProgress ask fuel t
    let L := rounds fuel c.clients
    (r.1.isSome ↔ ∃ a ∈ answers ask t L, Answered a) ∧
    ∀ pre d post, L = pre ++ d :: post → (∀ a ∈ answers ask t pre, Answered a = false) →
      Answered (ask (t + pre.length) d) →
      r.1 = some (ask (t + pre.length) d).1 ∧ calls r.2 = pre ++ [d] := by
  have hres : ((none, some ⟨""⟩) : Option Progress × Option GoError).2 ≠ none := nofun
  obtain ⟨h₁, h₂⟩ := retryRounds_failover ask (none, none) (some c.rpcRetryInterval) c.clients hne
    fuel t (none, some ⟨""⟩)
  rw [getSyncProgress_eq c ask fuel t hres]
  dsimp only
  rw [h₁, h₂]
  refine ⟨?_, fun pre d post hL hpre hd => ?_⟩
  · split
    · next h => exact ⟨fun _ => ((failover_ok_iff ..).mp h).resolve_right fun h' => hres h'.2, fun _ => rfl⟩
    · next h => exact ⟨nofun, fun h' => absurd ((failover_ok_iff ..).mpr (.inl h')) h⟩
  · rw [hL, failover_first_answer ask t _ pre d post hpre hd]
    simp only [(answered_iff _).mp hd, ite_true, and_self]

/-- One endpoint that times out twice, then answers: `GetSyncProgress` over three rounds
returns the third round's answer, having called the endpoint three times. -/
theorem getSyncProgress_spec_third_round :
    let c : APICaller Nat := ⟨[0], 3, 1000000000⟩
    let ask : Nat → Nat → Option Nat × Option GoError :=
      fun i _ => if i < 2 then (none, some ⟨"timeout"⟩) else (some 7, none)
    let r := c.getSyncProgress ask 3 0
    let L := rounds 3 c.clients
    c.clients ≠ [] ∧ (r.1.isSome ↔ ∃ a ∈ answers ask 0 L, Answered a) ∧
    ∀ pre d post, L = pre ++ d :: post → (∀ a ∈ answers ask 0 pre, Answered a = false) →
      Answered (ask (0 + pre.length) d) →
      r.1 = some (ask (0 + pre.length) d).1 ∧ calls r.2 = pre ++ [d] := by
  intro c ask r L
  exact ⟨nofun, getSyncProgress_spec c nofun ask 3 0⟩

/-- **`GetSyncProgress` returns once the clients answer**: over a non-empty client list,
if every call from the `m`-th on is answered, it returns within `m - t + 1` rounds, since
each round before that asks every client in vain. -/
theorem getSyncProgress_isSome (c : APICaller κ) (hne : c.clients ≠ [])
    (ask : Nat → κ → Option Progress × Option GoError) {m : Nat}
    (hA : ∀ i, m ≤ i → ∀ client, Answered (ask i client)) (fuel t : Nat) (hfuel : m - t < fuel) :
    (c.getSyncProgress ask fuel t).1.isSome := by
  induction fuel generalizing t with
  | zero => omega
  | succ fuel ih =>
    simp only [APICaller.getSyncProgress]
    split
    · rfl
    · next hfail =>
      have hall : ∀ a ∈ answers ask t c.clients, Answered a = false := fun a ha =>
        Bool.eq_false_iff.mpr fun h => hfail ((failover_ok_iff ask t _ _).mpr (.inl ⟨a, ha, h⟩))
      obtain ⟨d, l, hdl⟩ := List.exists_cons_of_ne_nil hne
      have hlt : t < m := by
        by_contra hge
        have hd := hall (ask t d) (by rw [hdl]; exact List.mem_cons_self _ _)
        rw [hA t (by omega) d] at hd
        cases hd
      have hcalls : (c.syncProgress t ask).2 = c.clients := by
        rw [APICaller.syncProgress, failover_all_fail ask t _ _ hall]
      exact ih _ (by rw [hcalls, hdl, List.length_cons]; omega)

/-- One endpoint that times out twice, then answers: `GetSyncProgress` returns within
three rounds. -/
theorem getSyncProgress_isSome_third_round :
    let c : APICaller Nat := ⟨[0], 3, 1000000000⟩
    let ask : Nat → Nat → Option Nat × Option GoError :=
      fun i _ => if i < 2 then (none, some ⟨"timeout"⟩) else (some 7, none)
    (c.clients ≠ [] ∧ (∀ i, 2 ≤ i → ∀ client, Answered (ask i client)) ∧ 2 - 0 < 3) ∧
      (c.getSyncProgress ask 3 0).1.isSome := by
  intro c ask
  have hA : ∀ i, 2 ≤ i → ∀ client, Answered (ask i client) := fun i hi _ => by
    simp only [ask, show ¬i < 2 by omega, if_false]
    rfl
  exact ⟨⟨nofun, hA, by decide⟩, getSyncProgress_isSome c nofun ask hA 3 0 (by decide)⟩

end SyncProgress

end AnyTokenDistribution.Callapi
