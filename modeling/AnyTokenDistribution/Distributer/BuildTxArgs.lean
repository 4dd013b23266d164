import AnyTokenDistribution.Common.Hex

/-!
# Building and sending reward transactions

`distributer/sendtx.go`: the state `BuildTxArgs` of the transaction builder,
`Check` with `loadKeyStore` and `setDefaults`, and `sendRewardsTransaction`, which
builds, signs and submits one ERC-20 `transfer` of a reward.

## The model

Go's `BuildTxArgs` holds pointers; a `nil` pointer is `none`. A call that would
dereference a `nil` pointer panics and ends the process: it is the error
`TxError.nilDeref`, with the pointer that was `nil`.

The builder's collaborators are an `Env`: the files, the keystore decryption, the
signature, and the answers of the API caller `capi`. Each `capi` answer is indexed
by the number of calls the run made before it, so any schedule of answers, stale,
ahead or failing, is some `Env`. The calls are recorded, with their answers, in a
trace (`Call`); the trace also records what is signed.

`setDefaults` loops until the chain ID, the nonce and the gas price have all been
obtained; it is run with `fuel` passes and gives `none` when the fuel runs out, so a
statement about `Check` returning is one about some fuel.
-/

namespace AnyTokenDistribution.Distributer

open Common

/-! ### Data -/

/-- `types.Signer` as `setDefaults` makes it, `types.NewEIP155Signer(chainID)`. -/
structure Signer where
  /-- The chain ID it signs for. -/
  chainId : Int
  deriving DecidableEq

/-- `types.NewEIP155Signer(chainId)`: a `nil` chain ID is taken as `0`. -/
def newEIP155Signer (chainId : Option Int) : Signer := ⟨chainId.getD 0⟩

/-- `keystore.Key`: the address and the private key. -/
structure Key where
  /-- `Address`. -/
  address : Address
  /-- `PrivateKey`, its scalar. -/
  privateKey : Nat

/-- A transaction as `types.NewTransaction` builds it. -/
structure Transaction where
  /-- `AccountNonce`. -/
  nonce : UInt64
  /-- `Recipient`, the address `tx.To()` gives. -/
  recipient : Address
  /-- `Amount`. -/
  amount : Int
  /-- `GasLimit`. -/
  gasLimit : UInt64
  /-- `Price`. -/
  gasPrice : Int
  /-- `Payload`. -/
  data : List UInt8
  deriving DecidableEq

/-- `types.NewTransaction(nonce, to, amount, gasLimit, gasPrice, data)`: a `nil` gas
price is left at `0`. -/
def newTransaction (nonce : UInt64) (recipient : Address) (amount : Int) (gasLimit : UInt64)
    (gasPrice : Option Int) (data : List UInt8) : Transaction :=
  ⟨nonce, recipient, amount, gasLimit, gasPrice.getD 0, data⟩

/-- A transaction with its signature, as `types.SignTx` returns it. -/
structure SignedTx where
  /-- The transaction signed. -/
  tx : Transaction
  /-- The signature. -/
  sig : List UInt8
  deriving DecidableEq

/-- `BuildTxArgs`. -/
structure BuildTxArgs where
  /-- `Sender`, as given, then as resolved. -/
  sender : String
  /-- `KeystoreFile`. -/
  keystoreFile : String
  /-- `PasswordFile`. -/
  passwordFile : String
  /-- `Nonce`. -/
  nonce : Option UInt64
  /-- `GasLimit`. -/
  gasLimit : Option UInt64
  /-- `GasPrice`. -/
  gasPrice : Option Int
  /-- `keyWrapper`, the decrypted key. -/
  keyWrapper : Option Key
  /-- `fromAddr`. -/
  fromAddr : Address
  /-- `chainID`. -/
  chainID : Option Int
  /-- `chainSigner`. -/
  chainSigner : Option Signer

/-- A pointer of `BuildTxArgs` that a call may find `nil`. -/
inductive Pointer where
  | nonce | gasLimit | keyWrapper | chainSigner
  deriving DecidableEq

/-- How a call of the builder fails. -/
inductive TxError where
  /-- `wrong sender address '%v'`. -/
  | wrongSender (sender : String)
  /-- `sender mismatch. sender from args = '%v', sender from keystore = '%v'`. -/
  | senderMismatch (fromArgs fromKeystore : String)
  /-- An error of `loadKeyStore`, passed on. -/
  | loadKeyStore (err : GoError)
  /-- `sign tx failed, %v`. -/
  | signTxFailed (err : GoError)
  /-- `send tx failed, %v`. -/
  | sendTxFailed (err : GoError)
  /-- A panic: the pointer was `nil`. -/
  | nilDeref (p : Pointer)
  deriving DecidableEq

/-- The text of the error, as `err.Error()` gives it. -/
def TxError.message : TxError → String
  | .wrongSender s => "wrong sender address '" ++ s ++ "'"
  | .senderMismatch a k => "sender mismatch. sender from args = '" ++ a ++ "', sender from keystore = '" ++ k ++ "'"
  | .loadKeyStore e => e.msg
  | .signTxFailed e => "sign tx failed, " ++ e.msg
  | .sendTxFailed e => "send tx failed, " ++ e.msg
  | .nilDeref _ => "runtime error: invalid memory address or nil pointer dereference"

/-- The builder's collaborators. The answers of `capi` take the number of calls made
before them. -/
structure Env where
  /-- `ioutil.ReadFile`. -/
  readFile : String → Except GoError String
  /-- `keystore.DecryptKey(keyjson, passwd)`. -/
  decryptKey : String → String → Except GoError Key
  /-- Keccak-256, behind the checksum case of `Address.String`. -/
  keccak256 : List UInt8 → List UInt8
  /-- `capi.GetChainID()`. -/
  getChainID : Nat → Option Int × Option GoError
  /-- `capi.GetAccountNonce(account)`. -/
  getAccountNonce : Nat → Address → UInt64 × Option GoError
  /-- `capi.SuggestGasPrice()`. -/
  suggestGasPrice : Nat → Option Int × Option GoError
  /-- The signature `types.SignTx` makes with the signer and the private key, or its error. -/
  sign : Transaction → Signer → Nat → Except GoError (List UInt8)
  /-- `signedTx.Hash()`. -/
  hash : SignedTx → Hash
  /-- `capi.SendTransaction(signedTx)`. -/
  sendTransaction : Nat → SignedTx → Option GoError

/-- A call the builder makes, with what it got back. -/
inductive Call where
  | getChainID (answer : Option Int × Option GoError)
  | getAccountNonce (account : Address) (answer : UInt64 × Option GoError)
  | suggestGasPrice (answer : Option Int × Option GoError)
  | signTx (tx : Transaction)
  | sendTransaction (tx : SignedTx) (answer : Option GoError)

/-! ### `loadKeyStore` and `Check` -/

/-- `unicode.IsSpace`. -/
def isSpace (c : Char) : Bool :=
  c == '\t' || c == '\n' || c == '\x0b' || c == '\x0c' || c == '\r' || c == ' ' ||
    c == '\x85' || c == '\xa0' || c == '\u1680' || decide ('\u2000' ≤ c ∧ c ≤ '\u200a') ||
    c == '\u2028' || c == '\u2029' || c == '\u202f' || c == '\u205f' || c == '\u3000'

/-- `strings.TrimSpace`. -/
def trimSpace (s : String) : String :=
  ⟨((s.toList.dropWhile isSpace).reverse.dropWhile isSpace).reverse⟩

/-- `BuildTxArgs.loadKeyStore`: read the keystore and the password, decrypt the key,
take its address, and its printed form as the sender if none was given. -/
def BuildTxArgs.loadKeyStore (env : Env) (args : BuildTxArgs) : Except GoError Unit × BuildTxArgs :=
  match env.readFile args.keystoreFile with
  | .error err => (.error err, args)
  | .ok keyjson =>
    match env.readFile args.passwordFile with
    | .error err => (.error err, args)
    | .ok passdata =>
      match env.decryptKey keyjson (trimSpace passdata) with
      | .error err => (.error err, { args with keyWrapper := none })
      | .ok key =>
        let args := { args with keyWrapper := some key, fromAddr := key.address }
        (.ok (), if args.sender = "" then { args with sender := args.fromAddr.hex env.keccak256 }
          else args)

/-- The part of `setDefaults`' loop body that gets the chain ID: `true` to go on,
`false` at a `continue`. The chain ID is assigned even when the call fails. -/
def BuildTxArgs.resolveChainID (env : Env) (args : BuildTxArgs) (tr : List Call) :
    Bool × BuildTxArgs × List Call :=
  match args.chainID with
  | some _ => (true, args, tr)
  | none =>
    let r := env.getChainID tr.length
    let args := { args with chainID := r.1 }
    let tr := tr ++ [.getChainID r]
    if r.2.isSome then (false, args, tr)
    else (true, { args with chainSigner := some (newEIP155Signer r.1) }, tr)

/-- The part that gets the nonce of `from`, here `fromAddress`. -/
def BuildTxArgs.resolveNonce (env : Env) (fromAddress : Address) (args : BuildTxArgs)
    (tr : List Call) : Bool × BuildTxArgs × List Call :=
  match args.nonce with
  | some _ => (true, args, tr)
  | none =>
    let r := env.getAccountNonce tr.length fromAddress
    let tr := tr ++ [.getAccountNonce fromAddress r]
    if r.2.isSome then (false, args, tr) else (true, { args with nonce := some r.1 }, tr)

/-- The part that gets the gas price, assigned even when the call fails. -/
def BuildTxArgs.resolveGasPrice (env : Env) (args : BuildTxArgs) (tr : List Call) :
    Bool × BuildTxArgs × List Call :=
  match args.gasPrice with
  | some _ => (true, args, tr)
  | none =>
    let r := env.suggestGasPrice tr.length
    (r.2.isNone, { args with gasPrice := r.1 }, tr ++ [.suggestGasPrice r])

/-- One pass of `setDefaults`' `for` loop: `true` when it reaches `break`. -/
def BuildTxArgs.setDefaultsPass (env : Env) (fromAddress : Address) (args : BuildTxArgs)
    (tr : List Call) : Bool × BuildTxArgs × List Call :=
  let (ok, args, tr) := args.resolveChainID env tr
  if !ok then (false, args, tr) else
  let (ok, args, tr) := args.resolveNonce env fromAddress tr
  if !ok then (false, args, tr) else
  let (ok, args, tr) := args.resolveGasPrice env tr
  if !ok then (false, args, tr) else
  match args.gasLimit with
  | some _ => (true, args, tr)
  | none => (true, { args with gasLimit := some 90000 }, tr)

/-- `BuildTxArgs.setDefaults`, given `fuel` passes of its loop: `none` if they do not
reach `break`. `fromAddress` is `from`, the `fromAddr` of when the loop starts. -/
def BuildTxArgs.setDefaultsLoop (env : Env) (fromAddress : Address) :
    Nat → BuildTxArgs → List Call → Option (BuildTxArgs × List Call)
  | 0, _, _ => none
  | fuel + 1, args, tr =>
    let (done, args, tr) := args.setDefaultsPass env fromAddress tr
    if done then some (args, tr) else setDefaultsLoop env fromAddress fuel args tr

/-- `BuildTxArgs.setDefaults`. -/
def BuildTxArgs.setDefaults (env : Env) (fuel : Nat) (args : BuildTxArgs) (tr : List Call) :
    Option (BuildTxArgs × List Call) :=
  setDefaultsLoop env args.fromAddr fuel args tr

/-- The end of `Check`, once the keystore is dealt with: the sender must be the
address of the key (compared as text, ignoring case), then `setDefaults`. -/
def BuildTxArgs.checkSenderMatch (env : Env) (fuel : Nat) (args : BuildTxArgs) (tr : List Call) :
    Option (Except TxError Unit × BuildTxArgs × List Call) :=
  if !equalFold args.sender (args.fromAddr.hex env.keccak256) then
    some (.error (.senderMismatch args.sender (args.fromAddr.hex env.keccak256)), args, tr)
  else (args.setDefaults env fuel tr).map fun (args, tr) => (.ok (), args, tr)

/-- `BuildTxArgs.Check(dryRun)`: the sender's format, the keystore (whose failure a
dry run tolerates, taking the sender's address or printing the zero address), the
sender against the key, then `setDefaults`. -/
def BuildTxArgs.check (env : Env) (dryRun : Bool) (fuel : Nat) (args : BuildTxArgs)
    (tr : List Call) : Option (Except TxError Unit × BuildTxArgs × List Call) :=
  if args.sender ≠ "" ∧ !isHexAddress args.sender then
    some (.error (.wrongSender args.sender), args, tr)
  else
    match args.loadKeyStore env with
    | (.error err, args) =>
      if !dryRun then some (.error (.loadKeyStore err), args, tr)
      else
        let args := if args.sender ≠ "" then { args with fromAddr := hexToAddress args.sender }
          else { args with sender := args.fromAddr.hex env.keccak256 }
        args.checkSenderMatch env fuel tr
    | (.ok (), args) => args.checkSenderMatch env fuel tr

/-! ### `sendRewardsTransaction` -/

/-- `transferFuncHash`, the selector of `transfer(address,uint256)`. -/
def transferFuncHash : List UInt8 := fromHex "0xa9059cbb"

/-- The call data of `sendRewardsTransaction`: 68 zero bytes, then the selector, the
account as a word and the reward's bytes left-padded to 32 copied in. -/
def transferData (account : Address) (reward : Int) : List UInt8 :=
  let data := List.replicate 68 0
  let data := copyInto data 0 4 transferFuncHash
  let data := copyInto data 4 36 account.hash.bytes
  copyInto data 36 68 (leftPadBytes (bigBytes reward) 32)

/-- `BuildTxArgs.sendRewardsTransaction(account, reward, rewardToken, dryRun)`: in a dry
run, nothing. Otherwise query the pending nonce of the sender and adopt it if it is
above the cached one, build the transfer at the cached nonce, sign, submit, and on
success move the cached nonce one up (a `uint64`, so `2^64 - 1` moves to `0`). -/
def BuildTxArgs.sendRewardsTransaction (env : Env) (account : Address) (reward : Int)
    (rewardToken : Address) (dryRun : Bool) (args : BuildTxArgs) (tr : List Call) :
    Except TxError (Option Hash) × BuildTxArgs × List Call :=
  if dryRun then (.ok none, args, tr) else
  let data := transferData account reward
  let q := env.getAccountNonce tr.length args.fromAddr
  let tr := tr ++ [.getAccountNonce args.fromAddr q]
  match args.nonce with
  | none => (.error (.nilDeref .nonce), args, tr)
  | some cached =>
  let nonce := if q.2 = none ∧ cached < q.1 then q.1 else cached
  let args := { args with nonce := some nonce }
  match args.gasLimit with
  | none => (.error (.nilDeref .gasLimit), args, tr)
  | some gasLimit =>
  let rawTx := newTransaction nonce rewardToken 0 gasLimit args.gasPrice data
  if args.keyWrapper.isNone && dryRun then (.ok none, args, tr) else
  match args.keyWrapper with
  | none => (.error (.nilDeref .keyWrapper), args, tr)
  | some key =>
  match args.chainSigner with
  | none => (.error (.nilDeref .chainSigner), args, tr)
  | some signer =>
  let tr := tr ++ [.signTx rawTx]
  match env.sign rawTx signer key.privateKey with
  -- `err != nil && !dryRun`, `dryRun` being false here
  | .error err => (.error (.signTxFailed err), args, tr)
  | .ok sig =>
  let signedTx : SignedTx := ⟨rawTx, sig⟩
  let answer := env.sendTransaction tr.length signedTx
  let tr := tr ++ [.sendTransaction signedTx answer]
  match answer with
  | some err => (.error (.sendTxFailed err), args, tr)
  | none => (.ok (some (env.hash signedTx)), { args with nonce := some (nonce + 1) }, tr)

end AnyTokenDistribution.Distributer
