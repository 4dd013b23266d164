import AnyTokenDistribution.Callapi.Retry
import AnyTokenDistribution.Common.Hex

/-!
# Contract queries

The contract helpers of the API caller query a contract through `CallContract` with the
data of an ABI call, a 4-byte function selector followed by one 32-byte word for each
argument (`packBytes`), and read the first 32-byte word of the answer:
`common.GetBigInt(res, 0, 32)` for a number, `common.GetData(res, 0, 32)` for an
address.

## The model

`packBytes` keeps the loop of the source: the first slice, then each further one
appended left-padded to 32 bytes. The helpers that read a number share one body,
`callBigInt` (`GetTokenTotalSupply`, `GetTokenBalance`, `GetErc20TotalSupply`; the
first two also log on error); the two that read an address share `callAddress`. Each
keeps its own definition, with its selector, under the source's name.
`GetErc20Decimals` reads a number too but answers `0` on error and cuts the number to
a byte, so it keeps its own body. `GetErc20Name` and `GetErc20Symbol` share
`callString`: they decode the answer with `UnpackABIEncodedStringInIndex`, which is not
part of the source and is a parameter of the model.

## What is proved

`packBytes_words`: for any first slice and any arguments of at most 32 bytes, the data
is that slice followed by one word per argument, the argument right-aligned behind
zeros, and `GetBigInt` of the word is the argument's value. So `GetTokenBalance` asks
the token for `balanceOf` of the account's own word (`getTokenBalance_eq`).

The queries ask the clients as `CallContract` does (`callContract_spec`). A number
query returns the first word of the first answer, and `nil` with the last error when
no call answers (`callBigInt_spec`); with no call to make it returns `0` and no error.
An answer shorter than a word is read with zeros behind it (`getBigInt_of_length_le`),
so an empty answer, the answer of an address that holds no code, is a balance of `0`
with no error (`callBigInt_empty_answer`). An address query reads back the address of
an ABI address word, and a failed one gives the zero address (`callAddress_spec`);
`GetErc20Decimals` returns the first word modulo `256` (`getErc20Decimals_spec`). The
string queries decode the first answer only, and give `""` with the last error when no
call answers (`callString_spec`).
-/

namespace AnyTokenDistribution.Callapi

open Common

variable {κ : Type}

/-! ### Call data -/

/-- `packBytes(bsSlice...)`: `nil` with no slice; otherwise the first slice as it is,
then each further one appended left-padded to a 32-byte word. -/
def packBytes : List (List UInt8) → List UInt8
  | [] => []
  | bs₀ :: rest => rest.foldl (fun result bs => result ++ leftPadBytes bs 32) bs₀

/-- The loop of `packBytes` appends the padded arguments one after another. -/
theorem packBytes_cons (bs₀ : List UInt8) (rest : List (List UInt8)) :
    packBytes (bs₀ :: rest) = bs₀ ++ (rest.map fun bs => leftPadBytes bs 32).flatten := by
  induction rest generalizing bs₀ with
  | nil => simp [packBytes]
  | cons bs rest ih =>
    simp only [packBytes, List.foldl_cons] at ih ⊢
    rw [ih, List.map_cons, List.flatten_cons, List.append_assoc]

/-- A run of 32-byte words is 32 bytes a word long. -/
theorem length_flatten_words {words : List (List UInt8)} (hw : ∀ w ∈ words, w.length = 32) :
    words.flatten.length = 32 * words.length := by
  induction words with
  | nil => rfl
  | cons w ws ih =>
    rw [List.flatten_cons, List.length_append, hw w (List.mem_cons_self _ _),
      ih fun v hv => hw v (List.mem_cons_of_mem _ hv), List.length_cons, Nat.mul_succ, Nat.add_comm]

/-- Word `i` of a run of 32-byte words is found `32 * i` bytes in. -/
theorem take_drop_flatten_words : ∀ {words : List (List UInt8)}, (∀ w ∈ words, w.length = 32) →
    ∀ {i : Nat} (hi : i < words.length), ((words.flatten).drop (32 * i)).take 32 = words[i]
  | w :: _, hw, 0, _ => by
    rw [List.flatten_cons, Nat.mul_zero, List.drop_zero,
      List.take_left' (hw w (List.mem_cons_self _ _)), List.getElem_cons_zero]
  | w :: ws, hw, i + 1, hi => by
    have hlen := hw w (List.mem_cons_self _ _)
    rw [List.flatten_cons, show 32 * (i + 1) = w.length + 32 * i by omega, List.drop_append,
      List.getElem_cons_succ]
    exact take_drop_flatten_words (fun v hv => hw v (List.mem_cons_of_mem _ hv))
      (Nat.lt_of_succ_lt_succ hi)

/-! ### Queries -/

section Queries

variable (c : APICaller κ) (t : Nat)
  (clientCallContract : Nat → κ → CallMsg → Option Int → List UInt8 × Option GoError)

/-- The body `GetTokenTotalSupply`, `GetTokenBalance` and `GetErc20TotalSupply` share:
`CallContract`, then `nil` and the error if it failed, else the first word of the
result as a number, `common.GetBigInt(res, 0, 32)`. -/
def APICaller.callBigInt (contract : Address) (data : List UInt8) (blockNumber : Option Int) :
    (Option Nat × Option GoError) × List (Event κ) :=
  let r := c.callContract t clientCallContract contract data blockNumber
  match r.1.2 with
  | some err => ((none, some err), r.2)
  | none => ((some (getBigInt r.1.1 0 32), none), r.2)

/-- `APICaller.GetTokenTotalSupply`: `totalSupply()` of a token. -/
def APICaller.getTokenTotalSupply (token : Address) (blockNumber : Option Int) :
    (Option Nat × Option GoError) × List (Event κ) :=
  let totalSupplyFuncHash := fromHex "0x18160ddd"
  c.callBigInt t clientCallContract token totalSupplyFuncHash blockNumber

/-- `APICaller.GetExchangeLiquidity`: the total supply of the exchange's own token. -/
def APICaller.getExchangeLiquidity (exchange : Address) (blockNumber : Option Int) :
    (Option Nat × Option GoError) × List (Event κ) :=
  c.getTokenTotalSupply t clientCallContract exchange blockNumber

/-- `APICaller.GetTokenBalance`: `balanceOf(account)` of a token. -/
def APICaller.getTokenBalance (token account : Address) (blockNumber : Option Int) :
    (Option Nat × Option GoError) × List (Event κ) :=
  let balanceOfFuncHash := fromHex "0x70a08231"
  let data := packBytes [balanceOfFuncHash, account.bytes]
  c.callBigInt t clientCallContract token data blockNumber

/-- `APICaller.GetExchangeTokenBalance`: the exchange's balance of the token. -/
def APICaller.getExchangeTokenBalance (exchange token : Address) (blockNumber : Option Int) :
    (Option Nat × Option GoError) × List (Event κ) :=
  c.getTokenBalance t clientCallContract token exchange blockNumber

/-- `APICaller.GetLiquidityBalance`: the account's balance of the exchange's own token. -/
def APICaller.getLiquidityBalance (exchange account : Address) (blockNumber : Option Int) :
    (Option Nat × Option GoError) × List (Event κ) :=
  c.getTokenBalance t clientCallContract exchange account blockNumber

/-- The body `GetExchangeTokenAddress` and `GetExchangeFactoryAddress` share:
`CallContract` on the latest block, then `common.Address{}` if it failed, else
`common.BytesToAddress(common.GetData(res, 0, 32))`. -/
def APICaller.callAddress (contract : Address) (data : List UInt8) : Address × List (Event κ) :=
  let r := c.callContract t clientCallContract contract data none
  match r.1.2 with
  | some _ => (Address.zero, r.2)
  | none => (bytesToAddress (getData r.1.1 0 32), r.2)

/-- `APICaller.GetExchangeTokenAddress`: `tokenAddress()` of an exchange. -/
def APICaller.getExchangeTokenAddress (exchange : Address) : Address × List (Event κ) :=
  let tokenAddressFuncHash := fromHex "0x9d76ea58"
  c.callAddress t clientCallContract exchange tokenAddressFuncHash

/-- `APICaller.GetExchangeFactoryAddress`: `factoryAddress()` of an exchange. -/
def APICaller.getExchangeFactoryAddress (exchange : Address) : Address × List (Event κ) :=
  let factoryAddress := fromHex "0x966dae0e"
  c.callAddress t clientCallContract exchange factoryAddress

/-- The body `GetErc20Name` and `GetErc20Symbol` share: `CallContract` on the latest
block, then `""` and the error if it failed, else `UnpackABIEncodedStringInIndex(res, 0)`.
That decoder is not part of the source; `unpack` stands for it. -/
def APICaller.callString (unpack : List UInt8 → Nat → String × Option GoError)
    (erc20 : Address) (data : List UInt8) : (String × Option GoError) × List (Event κ) :=
  let r := c.callContract t clientCallContract erc20 data none
  match r.1.2 with
  | some err => (("", some err), r.2)
  | none => (unpack r.1.1 0, r.2)

/-- `APICaller.GetErc20Name`: `name()` of an ERC-20 token. -/
def APICaller.getErc20Name (unpack : List UInt8 → Nat → String × Option GoError)
    (erc20 : Address) : (String × Option GoError) × List (Event κ) :=
  c.callString t clientCallContract unpack erc20 (fromHex "0x06fdde03")

/-- `APICaller.GetErc20Symbol`: `symbol()` of an ERC-20 token. -/
def APICaller.getErc20Symbol (unpack : List UInt8 → Nat → String × Option GoError)
    (erc20 : Address) : (String × Option GoError) × List (Event κ) :=
  c.callString t clientCallContract unpack erc20 (fromHex "0x95d89b41")

/-- `APICaller.GetErc20Decimals`: `decimals()` on the latest block; `0` and the error if
the call failed, else the first word of the result cut to a byte,
`uint8(common.GetBigInt(res, 0, 32).Uint64())`. -/
def APICaller.getErc20Decimals (erc20 : Address) : (UInt8 × Option GoError) × List (Event κ) :=
  let r := c.callContract t clientCallContract erc20 (fromHex "0x313ce567") none
  match r.1.2 with
  | some err => ((0, some err), r.2)
  | none => (((getBigInt r.1.1 0 32).toUInt64.toUInt8, none), r.2)

/-- `APICaller.GetErc20TotalSupply`: `totalSupply()` of an ERC-20 token. -/
def APICaller.getErc20TotalSupply (erc20 : Address) (blockNumber : Option Int) :
    (Option Nat × Option GoError) × List (Event κ) :=
  c.callBigInt t clientCallContract erc20 (fromHex "0x18160ddd") blockNumber

/-- `GetTokenBalance` calls `balanceOf` (selector `0x70a08231`) with the account's
word: its 20 bytes behind 12 zeros. -/
theorem getTokenBalance_eq (token account : Address) (blockNumber : Option Int) :
    c.getTokenBalance t clientCallContract token account blockNumber =
      c.callBigInt t clientCallContract token
        ([0x70, 0xa0, 0x82, 0x31] ++ List.replicate 12 0 ++ account.bytes) blockNumber := by
  have hsel : fromHex "0x70a08231" = [0x70, 0xa0, 0x82, 0x31] := by decide
  have hpad : leftPadBytes account.bytes 32 = List.replicate 12 0 ++ account.bytes := by
    rw [leftPadBytes_of_lt (by rw [account.length_bytes]; decide), account.length_bytes]
  simp only [APICaller.getTokenBalance, hsel, packBytes_cons, List.map_cons, List.map_nil,
    hpad, List.flatten_cons, List.flatten_nil, List.append_nil, List.append_assoc]

end Queries

/-- **ABI words**: for any first slice and any arguments of at most 32 bytes,
`packBytes` is that slice followed by one 32-byte word per argument, in order, word `i`
being argument `i` right-aligned behind zeros, so that `GetBigInt` of the word is the
argument's value. So `GetTokenBalance` calls `balanceOf` with the account's own word. -/
theorem packBytes_words (selector : List UInt8) (args : List (List UInt8))
    (hargs : ∀ arg ∈ args, arg.length ≤ 32) :
    ((packBytes (selector :: args)).length = selector.length + 32 * args.length ∧
      selector <+: packBytes (selector :: args) ∧
      ∀ (i : Nat) (hi : i < args.length),
        let word := ((packBytes (selector :: args)).drop (selector.length + 32 * i)).take 32
        word = List.replicate (32 - args[i].length) 0 ++ args[i] ∧
          getBigInt word 0 32 = bytesValue args[i]) ∧
    ∀ (c : APICaller κ) (t : Nat)
      (clientCallContract : Nat → κ → CallMsg → Option Int → List UInt8 × Option GoError)
      (token account : Address) (blockNumber : Option Int),
      c.getTokenBalance t clientCallContract token account blockNumber =
        c.callBigInt t clientCallContract token
          ([0x70, 0xa0, 0x82, 0x31] ++ List.replicate 12 0 ++ account.bytes) blockNumber := by
  have hw : ∀ w ∈ args.map fun bs => leftPadBytes bs 32, w.length = 32 := by
    simp only [List.mem_map, forall_exists_index, and_imp]
    rintro _ bs hbs rfl
    rw [length_leftPadBytes, max_eq_right (hargs bs hbs)]
  refine ⟨?_, getTokenBalance_eq⟩
  dsimp only
  rw [packBytes_cons]
  refine ⟨by rw [List.length_append, length_flatten_words hw, List.length_map],
    List.prefix_append _ _, fun i hi => ?_⟩
  have hle := hargs _ (List.getElem_mem hi)
  have hword : ((selector ++ (args.map fun bs => leftPadBytes bs 32).flatten).drop
      (selector.length + 32 * i)).take 32 = List.replicate (32 - args[i].length) 0 ++ args[i] := by
    rw [List.drop_append, take_drop_flatten_words hw (by simpa using hi), List.getElem_map,
      leftPadBytes_of_length_le hle]
  refine ⟨hword, ?_⟩
  rw [hword, getBigInt_word (by simp; omega), bytesValue_replicate_zero_append]

/-- The call data of `balanceOf` for the zero address. -/
theorem packBytes_words_balanceOf :
    (∀ arg ∈ [Address.zero.bytes], arg.length ≤ 32) ∧
    ((packBytes ([0x70, 0xa0, 0x82, 0x31] :: [Address.zero.bytes])).length = 4 + 32 * 1 ∧
      [0x70, 0xa0, 0x82, 0x31] <+: packBytes ([0x70, 0xa0, 0x82, 0x31] :: [Address.zero.bytes]) ∧
      ∀ (i : Nat) (hi : i < [Address.zero.bytes].length),
        let word := ((packBytes ([0x70, 0xa0, 0x82, 0x31] :: [Address.zero.bytes])).drop
          (4 + 32 * i)).take 32
        word = List.replicate (32 - [Address.zero.bytes][i].length) 0 ++ [Address.zero.bytes][i] ∧
          getBigInt word 0 32 = bytesValue [Address.zero.bytes][i]) ∧
    ∀ (c : APICaller Nat) (t : Nat)
      (clientCallContract : Nat → Nat → CallMsg → Option Int → List UInt8 × Option GoError)
      (token account : Address) (blockNumber : Option Int),
      c.getTokenBalance t clientCallContract token account blockNumber =
        c.callBigInt t clientCallContract token
          ([0x70, 0xa0, 0x82, 0x31] ++ List.replicate 12 0 ++ account.bytes) blockNumber :=
  ⟨by decide, packBytes_words _ _ (by decide)⟩

/-! ### Reading the answer -/

section Answers

variable (c : APICaller κ) (t : Nat)
  (clientCallContract : Nat → κ → CallMsg → Option Int → List UInt8 × Option GoError)

/-- A number query is `CallContract` with its result read as a number. -/
theorem callBigInt_eq (contract : Address) (data : List UInt8) (blockNumber : Option Int) :
    c.callBigInt t clientCallContract contract data blockNumber =
      let r := c.callContract t clientCallContract contract data blockNumber
      ((if r.1.2 = none then some (getBigInt r.1.1 0 32) else none, r.1.2), r.2) := by
  simp only [APICaller.callBigInt]
  split <;> simp_all

/-- **Number queries**: over any count and any client list, a number query asks the
clients as `CallContract` does. With no call to make it returns `0` and no error; else
it returns the first word of the first answer, as a number, and makes no call after
it; when no call answers it returns `nil` and the last error. -/
theorem callBigInt_spec (contract : Address) (data : List UInt8) (blockNumber : Option Int) :
    let L := rounds c.rpcRetryCount.toNat c.clients
    let ask := fun t client => clientCallContract t client ⟨contract, data⟩ blockNumber
    let r := c.callBigInt t clientCallContract contract data blockNumber
    (L = [] → r.1 = (some 0, none) ∧ calls r.2 = []) ∧
      (∀ pre d post, L = pre ++ d :: post → (∀ a ∈ answers ask t pre, Answered a = false) →
        Answered (ask (t + pre.length) d) →
        r.1 = (some (getBigInt (ask (t + pre.length) d).1 0 32), none) ∧ calls r.2 = pre ++ [d]) ∧
      ((∀ a ∈ answers ask t L, Answered a = false) → L ≠ [] →
        r.1 = (none, ((answers ask t L).getLastD ([], none)).2) ∧ calls r.2 = L) := by
  obtain ⟨-, h₂, h₃⟩ := callContract_spec c t clientCallContract contract data blockNumber
  rw [callBigInt_eq]
  dsimp only at h₂ h₃ ⊢
  refine ⟨fun hL => ?_, fun pre d post hL hpre hd => ?_, fun hall hL => ?_⟩
  · obtain ⟨e₁, e₂⟩ := h₃ (by simp [hL, answers])
    simp only [e₁, e₂, hL, answers]
    exact ⟨rfl, trivial⟩
  · obtain ⟨e₁, e₂⟩ := h₂ pre d post hL hpre hd
    have hnone := (answered_iff _).mp hd
    simp only [e₁, e₂, hnone, ite_true, and_true]
  · obtain ⟨e₁, e₂⟩ := h₃ hall
    have hfail := getLastD_answers_not_answered _ t ([], none) _ hall hL
    simp only [e₁, e₂, hfail, ite_false, and_true]

/-- **A query to an address without code**: where every call is answered with no
data, as a node answers a call to an address that holds no code, a number query
returns `0` and no error. -/
theorem callBigInt_empty_answer (contract : Address) (data : List UInt8) (blockNumber : Option Int)
    (hempty : ∀ t client, clientCallContract t client ⟨contract, data⟩ blockNumber = ([], none)) :
    (c.callBigInt t clientCallContract contract data blockNumber).1 = (some 0, none) := by
  obtain ⟨h₁, h₂, -⟩ := callBigInt_spec c t clientCallContract contract data blockNumber
  cases hL : rounds c.rpcRetryCount.toNat c.clients with
  | nil => exact (h₁ hL).1
  | cons d post =>
    rw [(h₂ [] d post hL (by simp [answers]) (by simp [hempty])).1]
    simp only [hempty, @getBigInt_of_length_le [] 32 (Nat.zero_le 32)]
    rfl

/-- A contract without code, on a node that answers every call with no data: a number
query returns `0` and no error. -/
theorem callBigInt_empty_answer_noCode :
    let c : APICaller Nat := ⟨[0], 3, 1000000000⟩
    let clientCallContract : Nat → Nat → CallMsg → Option Int → List UInt8 × Option GoError :=
      fun _ _ _ _ => ([], none)
    (∀ t client, clientCallContract t client ⟨Address.zero, []⟩ none = ([], none)) ∧
      (c.callBigInt 0 clientCallContract Address.zero [] none).1 = (some 0, none) := by
  intro c clientCallContract
  have hempty : ∀ t client, clientCallContract t client ⟨Address.zero, []⟩ none = ([], none) :=
    fun _ _ => rfl
  exact ⟨hempty, callBigInt_empty_answer c 0 clientCallContract Address.zero [] none hempty⟩

/-- An address query is `CallContract` on the latest block with the last 20 bytes of
the first word of its result read as an address. -/
theorem callAddress_eq (contract : Address) (data : List UInt8) :
    c.callAddress t clientCallContract contract data =
      let r := c.callContract t clientCallContract contract data none
      (if r.1.2 = none then bytesToAddress (getData r.1.1 0 32) else Address.zero, r.2) := by
  simp only [APICaller.callAddress]
  split <;> simp_all

/-- The address word of `a`, whatever follows it, reads back as `a`. -/
theorem bytesToAddress_getData_hash (a : Address) (rest : List UInt8) :
    bytesToAddress (getData (a.hash.bytes ++ rest) 0 32) = a := by
  have h := a.length_bytes
  rw [getData_of_le (by simp [a.hash.length_bytes]), List.drop_zero,
    List.take_left' a.hash.length_bytes, Address.hash_bytes]
  ext1
  simp [bytesToAddress, h, leftPadBytes_of_le]

/-- **Address queries**: over any count and any client list, an address query asks the
clients as `CallContract` does. When the first call that answers answers with the
address word of `a`, whatever follows it, the query returns `a`; when no call
answers it returns the zero address. -/
theorem callAddress_spec (contract : Address) (data : List UInt8) :
    let L := rounds c.rpcRetryCount.toNat c.clients
    let ask := fun t client => clientCallContract t client ⟨contract, data⟩ none
    let r := c.callAddress t clientCallContract contract data
    (∀ pre d post, L = pre ++ d :: post → (∀ a ∈ answers ask t pre, Answered a = false) →
        Answered (ask (t + pre.length) d) → ∀ (a : Address) rest,
        (ask (t + pre.length) d).1 = a.hash.bytes ++ rest → r.1 = a ∧ calls r.2 = pre ++ [d]) ∧
      ((∀ a ∈ answers ask t L, Answered a = false) → L ≠ [] →
        r.1 = Address.zero ∧ calls r.2 = L) := by
  obtain ⟨-, h₂, h₃⟩ := callContract_spec c t clientCallContract contract data none
  rw [callAddress_eq]
  dsimp only at h₂ h₃ ⊢
  refine ⟨fun pre d post hL hpre hd a rest ha => ?_, fun hall hL => ?_⟩
  · obtain ⟨e₁, e₂⟩ := h₂ pre d post hL hpre hd
    have hnone := (answered_iff _).mp hd
    simp only [e₁, e₂, hnone, ite_true, ha,
      bytesToAddress_getData_hash, and_true]
  · obtain ⟨e₁, e₂⟩ := h₃ hall
    have hfail := getLastD_answers_not_answered _ t ([], none) _ hall hL
    simp only [e₁, e₂, hfail, ite_false, and_true]

/-- A string query is `CallContract` on the latest block with its result decoded. -/
theorem callString_eq (unpack : List UInt8 → Nat → String × Option GoError) (erc20 : Address)
    (data : List UInt8) :
    c.callString t clientCallContract unpack erc20 data =
      let r := c.callContract t clientCallContract erc20 data none
      (if r.1.2 = none then unpack r.1.1 0 else ("", r.1.2), r.2) := by
  simp only [APICaller.callString]
  split <;> simp_all

/-- **String queries**: over any count and any client list, `GetErc20Name` and
`GetErc20Symbol` decode the first answer and nothing else, and return `""` with the last
error when no call answers. With no call to make they decode an empty answer. -/
theorem callString_spec (unpack : List UInt8 → Nat → String × Option GoError) (erc20 : Address)
    (data : List UInt8) :
    let L := rounds c.rpcRetryCount.toNat c.clients
    let ask := fun t client => clientCallContract t client ⟨erc20, data⟩ none
    let r := c.callString t clientCallContract unpack erc20 data
    (L = [] → r.1 = unpack [] 0 ∧ calls r.2 = []) ∧
      (∀ pre d post, L = pre ++ d :: post → (∀ a ∈ answers ask t pre, Answered a = false) →
        Answered (ask (t + pre.length) d) →
        r.1 = unpack (ask (t + pre.length) d).1 0 ∧ calls r.2 = pre ++ [d]) ∧
      ((∀ a ∈ answers ask t L, Answered a = false) → L ≠ [] →
        r.1 = ("", ((answers ask t L).getLastD ([], none)).2) ∧ calls r.2 = L) := by
  obtain ⟨-, h₂, h₃⟩ := callContract_spec c t clientCallContract erc20 data none
  rw [callString_eq]
  dsimp only at h₂ h₃ ⊢
  refine ⟨fun hL => ?_, fun pre d post hL hpre hd => ?_, fun hall hL => ?_⟩
  · obtain ⟨e₁, e₂⟩ := h₃ (by simp [hL, answers])
    simp only [e₁, e₂, hL, answers]
    exact ⟨rfl, trivial⟩
  · obtain ⟨e₁, e₂⟩ := h₂ pre d post hL hpre hd
    have hnone := (answered_iff _).mp hd
    simp only [e₁, e₂, hnone, ite_true, and_true]
  · obtain ⟨e₁, e₂⟩ := h₃ hall
    have hfail := getLastD_answers_not_answered _ t ([], none) _ hall hL
    simp only [e₁, e₂, hfail, ite_false, and_true]

/-- `uint8(x.Uint64())` keeps the low byte of `x`. -/
theorem toNat_toUInt8_toUInt64 (n : Nat) : n.toUInt64.toUInt8.toNat = n % 256 := by
  simp only [Nat.toUInt64, UInt64.toUInt8, Nat.toUInt8, UInt8.toNat, UInt8.ofNat, UInt64.toNat,
    UInt64.ofNat, Fin.ofNat, Fin.val_mk]
  exact Nat.mod_mod_of_dvd n (by decide)

/-- `GetErc20Decimals` is `CallContract` on the latest block with the low byte of the
first word of its result. -/
theorem getErc20Decimals_eq (erc20 : Address) :
    c.getErc20Decimals t clientCallContract erc20 =
      let r := c.callContract t clientCallContract erc20 (fromHex "0x313ce567") none
      ((if r.1.2 = none then (getBigInt r.1.1 0 32).toUInt64.toUInt8 else 0, r.1.2), r.2) := by
  simp only [APICaller.getErc20Decimals]
  split <;> simp_all

/-- **Decimals**: over any count and any client list, `GetErc20Decimals` returns the
first word of the first answer modulo `256`, and `0` with the last error when no call
answers. -/
theorem getErc20Decimals_spec (erc20 : Address) :
    let L := rounds c.rpcRetryCount.toNat c.clients
    let ask := fun t client => clientCallContract t client ⟨erc20, fromHex "0x313ce567"⟩ none
    let r := c.getErc20Decimals t clientCallContract erc20
    (∀ pre d post, L = pre ++ d :: post → (∀ a ∈ answers ask t pre, Answered a = false) →
        Answered (ask (t + pre.length) d) →
        r.1.1.toNat = getBigInt (ask (t + pre.length) d).1 0 32 % 256 ∧ r.1.2 = none ∧
          calls r.2 = pre ++ [d]) ∧
      ((∀ a ∈ answers ask t L, Answered a = false) → L ≠ [] →
        r.1 = (0, ((answers ask t L).getLastD ([], none)).2) ∧ calls r.2 = L) := by
  obtain ⟨-, h₂, h₃⟩ := callContract_spec c t clientCallContract erc20 (fromHex "0x313ce567") none
  rw [getErc20Decimals_eq]
  dsimp only at h₂ h₃ ⊢
  refine ⟨fun pre d post hL hpre hd => ?_, fun hall hL => ?_⟩
  · obtain ⟨e₁, e₂⟩ := h₂ pre d post hL hpre hd
    have hnone := (answered_iff _).mp hd
    simp only [e₁, e₂, hnone, ite_true, toNat_toUInt8_toUInt64, and_true]
  · obtain ⟨e₁, e₂⟩ := h₃ hall
    have hfail := getLastD_answers_not_answered _ t ([], none) _ hall hL
    simp only [e₁, e₂, hfail, ite_false, and_true]

end Answers

end AnyTokenDistribution.Callapi
