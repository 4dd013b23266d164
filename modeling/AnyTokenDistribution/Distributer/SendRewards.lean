import AnyTokenDistribution.Common.Bytes
import Mathlib.Algebra.Order.BigOperators.Group.List

/-!
# Sending the rewards of a file

`distributer/sendtx.go`: `Option.checkSendRewardsFromFile`, which loads the batch,
checks its title line and the sender's balance and writes the title of the output
record, and `Option.SendRewardsFromFile`, which sends one transfer per entry with a
positive reward and writes one line per transfer sent, failing fast.

## The model

What `sendtx.go` calls but does not define is a `Collab`: the loader of the input file,
the title-line helpers, `SetByWhat`, `CheckBasic`, the sender's balance of the reward
token, `Option.SendRewardsTransaction` and the writers of the output record. The
answers of the sends and of the writes take the number of events before them, so
every schedule of outcomes is some `Collab`. The run is recorded as a trace of events:
the sends with their outcomes and the writes with theirs, each the collaborator's answer
to the call made at that point of the trace (`Collab.Recorded`). The output record is the
lines whose write succeeded.

`TotalValue` is a `*big.Int` that the check assigns only to a batch that is not empty.
Both exits of the loop log `rewardsSended.Cmp(opt.TotalValue)`, evaluated before the log
call, which panics on a nil `TotalValue`: the run then ends in `PipelineError.nilDeref`.
The other log calls have no effect on the results.

`CalcTotalReward` and `CheckSenderRewardTokenBalance` are not under `src/`: they are
modelled from the spec (the total is the sum of all amounts; the check fails when the
balance is below it).

## What is proved

* The loop submits the positive entries in order, fail-fast (`FailFast`), fails iff a
  submission failed, writes one body line per transfer sent, and adds up exactly the
  rewards sent (`sendLoop_spec`); what it records are the collaborator's answers
  (`sendLoop_recorded`). The check itself only writes the title and sets the
  classification and `TotalValue` (`checkSendRewardsFromFile_cases`).
* Every run whose check accepted a batch calls `SendRewardsTransaction` once per positive
  entry, in order, with its account and reward, fail-fast, and returns an error iff a
  call failed, except that an empty batch with a nil `TotalValue` panics
  (`sendRewardsFromFile_failFast`, `sendRewardsFromFile_empty_batch`).
* The body lines of a run are those of the transfers it sent (`sendRewardsFromFile_bodyLines`).
* A run's result, and everything but the writes' outcomes, does not depend on those
  outcomes (`sendLoop_eraseWrites`, `sendRewardsFromFile_writes`): a failed write is never
  reported, and the output record holds every sent entry's line only when the body
  writes succeed.
* What is sent is bounded by the balance plus the magnitudes of the negative entries,
  which the total counts but the loop skips (`sendRewardsFromFile_sended_le`). A run
  that returns `nil` has sent every positive reward, so what it counts as sent is the
  total plus those magnitudes, and equals the total iff no reward is negative
  (`sendRewardsFromFile_rewardsSended`).
-/

namespace AnyTokenDistribution.Distributer

open Common

/-! ### Data -/

/-- `mongodb.AccountStat`, the fields the pipeline reads. -/
structure AccountStat where
  /-- `Account`. -/
  account : Address
  /-- `Reward`, a `*big.Int` that may be `nil`. -/
  reward : Option Int
  deriving DecidableEq

/-- `distributer.Option`, the fields these functions read and write; `Opt` here since
`Option` is Lean's. -/
structure Opt where
  /-- `InputFile`. -/
  inputFile : String
  /-- `byWhat`, the reward classification. -/
  byWhat : String
  /-- `TotalValue`, a `*big.Int`: `none` while it is `nil`. -/
  totalValue : Option Int
  /-- `SaveDB`. -/
  saveDB : Bool
  /-- `DryRun`. -/
  dryRun : Bool

/-- A line written to the output record. -/
inductive Line where
  /-- The title, by `WriteOutput`. -/
  | title (text : String)
  /-- `WriteSendRewardResult(stat, txHash)`. -/
  | result (stat : AccountStat) (txHash : Option Hash)
  /-- `WriteSendRewardFromFileResult(account, reward, txHash)`. -/
  | fromFile (account : Address) (reward : Int) (txHash : Option Hash)

/-- Whether a line is a body line, not the title. -/
def Line.isBody : Line → Bool
  | .title _ => false
  | _ => true

/-- How the pipeline fails. -/
inductive PipelineError where
  /-- `must specify input file`. -/
  | noInputFile
  /-- An error of a collaborator, passed on as it is. -/
  | passed (err : GoError)
  /-- `title line '%v' is not comment line`. -/
  | titleNotComment (titleLine : String)
  /-- `title line parts is less than 5. %v`. -/
  | titleTooShort (titleLine : String)
  /-- `byWhat mismatch. from arg %v, from file %v`. -/
  | byWhatMismatch (fromArg fromFile : String)
  /-- The sender's balance is below the total value (spec: InsufficientBalance). -/
  | insufficientBalance (balance : Nat) (totalValue : Int)
  /-- `can not savedb as error %v`. -/
  | cannotSaveDB (err : GoError)
  /-- `[sendRewards] send tx failed`. -/
  | sendFailed
  /-- The run panics: `rewardsSended.Cmp(opt.TotalValue)` dereferences a nil `TotalValue`. -/
  | nilDeref
  deriving DecidableEq

/-- The text of the error, as `err.Error()` gives it. -/
def PipelineError.message : PipelineError → String
  | .noInputFile => "must specify input file"
  | .passed e => e.msg
  | .titleNotComment t => "title line '" ++ t ++ "' is not comment line"
  | .titleTooShort t => "title line parts is less than 5. " ++ t
  | .byWhatMismatch a f => "byWhat mismatch. from arg " ++ a ++ ", from file " ++ f
  | .insufficientBalance _ _ => "insufficient balance"
  | .cannotSaveDB e => "can not savedb as error " ++ e.msg
  | .sendFailed => "[sendRewards] send tx failed"
  | .nilDeref => "runtime error: invalid memory address or nil pointer dereference"

/-- What the pipeline calls and `sendtx.go` does not define. -/
structure Collab where
  /-- `opt.GetAccountsAndRewardsFromFile()`: the entries and the title line. -/
  getAccountsAndRewardsFromFile : Except GoError (List AccountStat × String)
  /-- `isCommentedLine`. -/
  isCommentedLine : String → Bool
  /-- `blankOrCommaSepRegexp.Split(s, -1)`. -/
  blankOrCommaSplit : String → List String
  /-- `opt.SetByWhat(methodID)`: the classification it sets, or its error. -/
  setByWhat : String → Except GoError String
  /-- `GetStandardByWhat`. -/
  getStandardByWhat : String → String
  /-- The sender's balance of the reward token that `CheckSenderRewardTokenBalance` reads. -/
  senderRewardTokenBalance : Except GoError Nat
  /-- `opt.CheckBasic()`. -/
  checkBasic : Option GoError
  /-- `opt.SendRewardsTransaction(account, reward)`, by the number of events before it. -/
  sendRewardsTransaction : Nat → Address → Int → Except GoError (Option Hash)
  /-- The error of a write of a line to the output record, by the number of events before it. -/
  write : Nat → Line → Option GoError

/-- An event of a run: a send with its outcome, or a write with its error. -/
inductive Event where
  | send (stat : AccountStat) (reward : Int) (result : Except GoError (Option Hash))
  | write (line : Line) (result : Option GoError)

/-! ### The title line -/

/-- `addTxHashFieldToTitleLine`: a `txhash` column before the last field. -/
def addTxHashFieldToTitleLine (split : String → List String) (titleLine : String) : String :=
  let parts := split titleLine
  if parts.length ≤ 1 then titleLine ++ ",txhash" else
  let lastPart := parts.getLastD ""
  let result := ",".intercalate (parts.take (parts.length - 1))
  result ++ ",txhash," ++ lastPart

/-- `Option.checkTitleLine`: a comment line of at least five fields, whose third names the
classification of the run, or sets it if the run has none. -/
def Opt.checkTitleLine (c : Collab) (opt : Opt) (titleLine : String) : Except PipelineError Opt :=
  if !c.isCommentedLine titleLine then .error (.titleNotComment titleLine) else
  let titleParts := c.blankOrCommaSplit titleLine
  if titleParts.length < 5 then .error (.titleTooShort titleLine) else
  let methodID := titleParts.getD 2 ""
  if opt.byWhat = "" then
    match c.setByWhat methodID with
    | .error err => .error (.passed err)
    | .ok byWhat => .ok { opt with byWhat := byWhat }
  else if opt.byWhat ≠ c.getStandardByWhat methodID then
    .error (.byWhatMismatch opt.byWhat methodID)
  else .ok opt

/-! ### The balance check -/

/-- Modelled from the spec: `AccountStatSlice.CalcTotalReward`, absent from `src/`, "total
reward = sum of all amounts"; a `nil` reward counts as zero. -/
def calcTotalReward (stats : List AccountStat) : Int := (stats.map fun s => s.reward.getD 0).sum

/-- Modelled from the spec: `Option.CheckSenderRewardTokenBalance`, absent from `src/`: it
queries the sender's balance of the reward token and "fails with InsufficientBalance if it
is less than `totalReward`"; a failed query is passed on. -/
def checkSenderRewardTokenBalance (balance : Except GoError Nat) (totalValue : Int) :
    Option PipelineError :=
  match balance with
  | .error err => some (.passed err)
  | .ok b => if (b : Int) < totalValue then some (.insufficientBalance b totalValue) else none

/-! ### `checkSendRewardsFromFile` -/

/-- The title written to the output record: the file's own in a dry run, with a `txhash`
column if the records can be saved, and a fixed one otherwise. -/
def outputTitle (c : Collab) (dryRun canSaveDB : Bool) (titleLine : String) : String :=
  if dryRun then titleLine
  else if canSaveDB then addTxHashFieldToTitleLine c.blankOrCommaSplit titleLine
  else "#account,reward,txhash"

/-- `Option.checkSendRewardsFromFile`: the entries to send and whether the records can be
saved, or the error; the option as it leaves it; the trace. -/
def Opt.checkSendRewardsFromFile (c : Collab) (opt : Opt) (tr : List Event) :
    Except PipelineError (List AccountStat × Bool) × Opt × List Event :=
  if opt.inputFile = "" then (.error .noInputFile, opt, tr) else
  match c.getAccountsAndRewardsFromFile with
  | .error err => (.error (.passed err), opt, tr)
  | .ok (accountStats, titleLine) =>
    if accountStats.length = 0 then (.ok ([], false), opt, tr) else
    match opt.checkTitleLine c titleLine with
    | .error err => (.error err, opt, tr)
    | .ok opt =>
      -- assign total value before check balance
      let opt := { opt with totalValue := some (calcTotalReward accountStats) }
      match checkSenderRewardTokenBalance c.senderRewardTokenBalance (calcTotalReward accountStats) with
      | some err => (.error err, opt, tr)
      | none =>
        match c.checkBasic, opt.saveDB with
        | some err, true => (.error (.cannotSaveDB err), opt, tr)
        | basic, _ =>
          let canSaveDB := basic.isNone
          let title := Line.title (outputTitle c opt.dryRun canSaveDB titleLine)
          (.ok (accountStats, canSaveDB), opt, tr ++ [.write title (c.write tr.length title)])

/-! ### `SendRewardsFromFile` -/

/-- The body line written for a transfer sent. -/
def bodyLine (dryRun canSaveDB : Bool) (stat : AccountStat) (reward : Int) (txHash : Option Hash) :
    Line :=
  if dryRun || canSaveDB then .result stat txHash else .fromFile stat.account reward txHash

/-- The `for` loop of `SendRewardsFromFile` over `accountStats`, from `rewardsSended` and
the trace `tr`: the error it returns, the rewards sent, the trace. -/
def sendLoop (c : Collab) (dryRun canSaveDB : Bool) :
    List AccountStat → Int → List Event → Option PipelineError × Int × List Event
  | [], rewardsSended, tr => (none, rewardsSended, tr)
  | stat :: stats, rewardsSended, tr =>
    match stat.reward with
    | none => sendLoop c dryRun canSaveDB stats rewardsSended tr
    | some reward =>
      if reward ≤ 0 then sendLoop c dryRun canSaveDB stats rewardsSended tr else
      let r := c.sendRewardsTransaction tr.length stat.account reward
      let tr := tr ++ [.send stat reward r]
      match r with
      | .error _ => (some .sendFailed, rewardsSended, tr)
      | .ok txHash =>
        let line := bodyLine dryRun canSaveDB stat reward txHash
        sendLoop c dryRun canSaveDB stats (rewardsSended + reward)
          (tr ++ [.write line (c.write tr.length line)])

/-- What a run of `SendRewardsFromFile` returns and leaves. -/
structure Outcome where
  /-- The error returned, or the panic (`PipelineError.nilDeref`). -/
  err : Option PipelineError
  /-- The option as the run leaves it. -/
  opt : Opt
  /-- `rewardsSended`: the rewards of the transfers sent. -/
  rewardsSended : Int
  /-- The events of the run. -/
  trace : List Event

/-- `Option.SendRewardsFromFile`. Both exits of the loop first log
`rewardsSended.Cmp(opt.TotalValue)`, which panics on a nil `TotalValue`. -/
def Opt.sendRewardsFromFile (c : Collab) (opt : Opt) : Outcome :=
  match opt.checkSendRewardsFromFile c [] with
  | (.error err, opt, tr) => ⟨some err, opt, 0, tr⟩
  | (.ok (accountStats, canSaveDB), opt, tr) =>
    let r := sendLoop c opt.dryRun canSaveDB accountStats 0 tr
    ⟨if opt.totalValue.isNone then some .nilDeref else r.1, opt, r.2.1, r.2.2⟩

/-! ### Reading a trace -/

/-- A send of a trace: the entry, the reward and the outcome. -/
abbrev SendRecord := AccountStat × Int × Except GoError (Option Hash)

/-- The sends of a trace, in order. -/
def sendsOf (tr : List Event) : List SendRecord :=
  tr.filterMap fun
    | .send stat reward result => some (stat, reward, result)
    | .write _ _ => none

/-- The lines a trace writes, in order. -/
def linesOf (tr : List Event) : List Line :=
  tr.filterMap fun
    | .write line _ => some line
    | .send _ _ _ => none

/-- The output record: the lines whose write succeeded. -/
def outputRecord (tr : List Event) : List Line :=
  tr.filterMap fun
    | .write line none => some line
    | _ => none

@[simp] theorem sendsOf_nil : sendsOf [] = [] := rfl
@[simp] theorem linesOf_nil : linesOf [] = [] := rfl
@[simp] theorem outputRecord_nil : outputRecord [] = [] := rfl

@[simp] theorem sendsOf_append (a b : List Event) : sendsOf (a ++ b) = sendsOf a ++ sendsOf b :=
  List.filterMap_append _ _ _

@[simp] theorem linesOf_append (a b : List Event) : linesOf (a ++ b) = linesOf a ++ linesOf b :=
  List.filterMap_append _ _ _

@[simp] theorem outputRecord_append (a b : List Event) :
    outputRecord (a ++ b) = outputRecord a ++ outputRecord b :=
  List.filterMap_append _ _ _

@[simp] theorem sendsOf_cons_send (stat : AccountStat) (reward : Int) result (tr : List Event) :
    sendsOf (.send stat reward result :: tr) = (stat, reward, result) :: sendsOf tr := rfl

@[simp] theorem sendsOf_cons_write (line : Line) result (tr : List Event) :
    sendsOf (.write line result :: tr) = sendsOf tr := rfl

@[simp] theorem linesOf_cons_send (stat : AccountStat) (reward : Int) result (tr : List Event) :
    linesOf (.send stat reward result :: tr) = linesOf tr := rfl

@[simp] theorem linesOf_cons_write (line : Line) result (tr : List Event) :
    linesOf (.write line result :: tr) = line :: linesOf tr := rfl

@[simp] theorem outputRecord_cons_send (stat : AccountStat) (reward : Int) result (tr : List Event) :
    outputRecord (.send stat reward result :: tr) = outputRecord tr := rfl

@[simp] theorem outputRecord_cons_write_none (line : Line) (tr : List Event) :
    outputRecord (.write line none :: tr) = line :: outputRecord tr := rfl

@[simp] theorem outputRecord_cons_write_some (line : Line) (err : GoError) (tr : List Event) :
    outputRecord (.write line (some err) :: tr) = outputRecord tr := rfl

/-- The event at index `i` of a trace holds the collaborator's answer to the call made
there: a send's outcome is what `SendRewardsTransaction` answers for its account and
reward, a write's error what the writer answers for its line. -/
def Event.answered (c : Collab) (i : Nat) : Event → Prop
  | .send stat reward result => result = c.sendRewardsTransaction i stat.account reward
  | .write line result => result = c.write i line

/-- Every event of the trace holds the collaborator's answer to its call. -/
def Collab.Recorded (c : Collab) (tr : List Event) : Prop :=
  ∀ i (e : Event), tr[i]? = some e → e.answered c i

theorem Collab.Recorded.nil (c : Collab) : c.Recorded [] := fun _ _ h => by simp at h

/-- When every body line of a trace was written without error, the output record holds
all of them. -/
theorem outputRecord_filter_isBody {tr : List Event}
    (h : ∀ line e, Event.write line e ∈ tr → line.isBody → e = none) :
    (outputRecord tr).filter Line.isBody = (linesOf tr).filter Line.isBody := by
  induction tr with
  | nil => rfl
  | cons ev tr ih =>
    have ih := ih fun line e hm => h line e (List.mem_cons_of_mem _ hm)
    rcases ev with ⟨stat, reward, result⟩ | ⟨line, _ | err⟩
    · exact ih
    · simp only [outputRecord_cons_write_none, linesOf_cons_write, List.filter_cons, ih]
    · have hb : line.isBody = false :=
        Bool.eq_false_iff.mpr fun hb => nomatch h line (some err) (List.mem_cons_self _ _) hb
      simp only [outputRecord_cons_write_some, linesOf_cons_write, List.filter_cons, hb,
        Bool.false_eq_true, ite_false, ih]

/-- The entries the loop sends: those whose reward is set and positive, with it. -/
def positives (stats : List AccountStat) : List (AccountStat × Int) :=
  stats.filterMap fun stat => stat.reward.bind fun reward => if 0 < reward then some (stat, reward) else none

/-- An entry's reward is unset or not positive, and the loop skips it, or it is positive. -/
theorem AccountStat.skip_or_pos (stat : AccountStat) :
    (∀ reward ∈ stat.reward, reward ≤ 0) ∨ ∃ reward, stat.reward = some reward ∧ 0 < reward := by
  refine (em _).imp_right fun h => ?_
  push_neg at h
  exact h

theorem positives_cons_of_skip {stat : AccountStat} (stats : List AccountStat)
    (h : ∀ reward ∈ stat.reward, reward ≤ 0) : positives (stat :: stats) = positives stats := by
  rcases hr : stat.reward with _ | reward
  · simp [positives, hr]
  · simp [positives, hr, not_lt.mpr (h reward hr)]

theorem positives_cons_of_pos {stat : AccountStat} {reward : Int} (stats : List AccountStat)
    (hr : stat.reward = some reward) (hpos : 0 < reward) :
    positives (stat :: stats) = (stat, reward) :: positives stats := by
  simp [positives, hr, hpos]

/-- The body line of a send that succeeded. -/
def sentLine (dryRun canSaveDB : Bool) : SendRecord → Option Line
  | (stat, reward, .ok txHash) => some (bodyLine dryRun canSaveDB stat reward txHash)
  | (_, _, .error _) => none

/-- The reward of a send that succeeded, `0` for one that failed. -/
def sentReward : SendRecord → Int
  | (_, reward, .ok _) => reward
  | (_, _, .error _) => 0

/-- The sends of a fail-fast batch over the entries `P`: each entry in turn is sent once;
the batch ends after the first send that fails, or when every entry has been sent. -/
inductive FailFast : List (AccountStat × Int) → List SendRecord → Prop where
  /-- Nothing is left to send. -/
  | nil : FailFast [] []
  /-- The next entry is sent, and the batch goes on with the rest. -/
  | sent {stat : AccountStat} {reward : Int} {txHash : Option Hash} {P : List (AccountStat × Int)}
      {S : List SendRecord} :
      FailFast P S → FailFast ((stat, reward) :: P) ((stat, reward, .ok txHash) :: S)
  /-- The next entry fails to send, and the batch ends. -/
  | failed {stat : AccountStat} {reward : Int} {err : GoError} {P : List (AccountStat × Int)} :
      FailFast ((stat, reward) :: P) [(stat, reward, .error err)]

/-- A batch with nothing to send sends nothing. -/
theorem FailFast.eq_nil_of_nil {S : List SendRecord} (h : FailFast [] S) : S = [] := by
  cases h
  rfl

/-! ### The loop -/

section
variable (c : Collab) (dryRun canSaveDB : Bool)

/-- The loop skips an entry whose reward is unset or not positive. -/
theorem sendLoop_cons_of_skip {stat : AccountStat} (stats : List AccountStat) (rewardsSended : Int)
    (tr : List Event) (h : ∀ reward ∈ stat.reward, reward ≤ 0) :
    sendLoop c dryRun canSaveDB (stat :: stats) rewardsSended tr =
      sendLoop c dryRun canSaveDB stats rewardsSended tr := by
  rcases hr : stat.reward with _ | reward
  · simp only [sendLoop, hr]
  · simp only [sendLoop, hr, h reward hr, ite_true]

/-- **The loop**: after the trace it starts from, it sends the positive entries in order,
fail-fast; it returns an error, `[sendRewards] send tx failed`, iff a send failed; it
writes the body line of each transfer sent right after it and no other line; and it adds
up exactly the rewards sent. -/
theorem sendLoop_spec (stats : List AccountStat) (rewardsSended : Int) (tr : List Event) :
    let r := sendLoop c dryRun canSaveDB stats rewardsSended tr
    ∃ E, r.2.2 = tr ++ E ∧ FailFast (positives stats) (sendsOf E) ∧
      (r.1 = none ∨ r.1 = some .sendFailed) ∧
      (r.1.isSome ↔ ∃ s ∈ sendsOf E, s.2.2.toBool = false) ∧
      linesOf E = (sendsOf E).filterMap (sentLine dryRun canSaveDB) ∧
      r.2.1 = rewardsSended + ((sendsOf E).map sentReward).sum := by
  induction stats generalizing rewardsSended tr with
  | nil =>
    exact ⟨[], (List.append_nil tr).symm, .nil, .inl rfl,
      iff_of_false Bool.false_ne_true fun ⟨_, h, _⟩ => List.not_mem_nil _ h, rfl, (add_zero _).symm⟩
  | cons stat stats ih =>
    rcases stat.skip_or_pos with hskip | ⟨reward, hr, hpos⟩
    · rw [sendLoop_cons_of_skip c dryRun canSaveDB stats rewardsSended tr hskip,
        positives_cons_of_skip stats hskip]
      exact ih rewardsSended tr
    rw [positives_cons_of_pos stats hr hpos]
    simp only [sendLoop, hr, not_le.mpr hpos, ite_false]
    generalize c.sendRewardsTransaction tr.length stat.account reward = res
    cases res with
    | error err =>
      exact ⟨[.send stat reward (.error err)], rfl, .failed, .inr rfl,
        ⟨fun _ => ⟨_, List.mem_singleton_self _, rfl⟩, fun _ => rfl⟩, rfl, (add_zero _).symm⟩
    | ok txHash =>
      let line := bodyLine dryRun canSaveDB stat reward txHash
      obtain ⟨E, hE, hff, herr, hiff, hlines, hsum⟩ := ih (rewardsSended + reward)
        (tr ++ [.send stat reward (.ok txHash)] ++
          [.write line (c.write (tr ++ [Event.send stat reward (.ok txHash)]).length line)])
      refine ⟨.send stat reward (.ok txHash) ::
          .write line (c.write (tr ++ [Event.send stat reward (.ok txHash)]).length line) :: E,
        by rw [hE]; simp only [List.append_assoc, List.cons_append, List.nil_append], hff.sent, herr,
        ?_, congrArg (line :: ·) hlines, by rw [hsum, add_assoc]; rfl⟩
      rw [sendsOf_cons_send, sendsOf_cons_write, List.exists_mem_cons_iff]
      exact hiff.trans (or_iff_right Bool.noConfusion).symm

end

/-! ### What the check does -/

/-- The title line sets at most the classification of the run. -/
theorem Opt.checkTitleLine_ok {c : Collab} {opt opt' : Opt} {titleLine : String}
    (h : opt.checkTitleLine c titleLine = .ok opt') : ∃ byWhat, opt' = { opt with byWhat := byWhat } := by
  simp only [Opt.checkTitleLine] at h
  split_ifs at h
  · split at h
    · cases h
    · cases h
      exact ⟨_, rfl⟩
  · cases h
    exact ⟨_, rfl⟩

/-- **The check**: it fails, or accepts an empty batch, leaving the option and the trace as
they are; or it accepts a batch that is not empty, whose total, recorded as `TotalValue`,
the sender's balance covers, the records savable iff `CheckBasic` passed, and writes the
title. -/
theorem checkSendRewardsFromFile_cases (c : Collab) (opt : Opt) (tr : List Event) :
    let r := opt.checkSendRewardsFromFile c tr
    (r.2.2 = tr ∧ ∀ stats canSaveDB, r.1 = .ok (stats, canSaveDB) → stats = [] ∧ r.2.1 = opt) ∨
      ∃ stats title byWhat, stats ≠ [] ∧ r.1 = .ok (stats, c.checkBasic.isNone) ∧
        r.2.1 = { opt with byWhat := byWhat, totalValue := some (calcTotalReward stats) } ∧
        checkSenderRewardTokenBalance c.senderRewardTokenBalance (calcTotalReward stats) = none ∧
        r.2.2 = tr ++ [.write (.title title) (c.write tr.length (.title title))] := by
  simp only [Opt.checkSendRewardsFromFile]
  split
  · exact .inl ⟨rfl, fun _ _ h => by cases h⟩
  rcases c.getAccountsAndRewardsFromFile with err | ⟨accountStats, titleLine⟩
  · exact .inl ⟨rfl, fun _ _ h => by cases h⟩
  dsimp only
  split
  · exact .inl ⟨rfl, fun _ _ h => by cases h; exact ⟨rfl, rfl⟩⟩
  rename_i hne
  rcases ht : opt.checkTitleLine c titleLine with err | opt'
  · exact .inl ⟨rfl, fun _ _ h => by cases h⟩
  obtain ⟨byWhat, rfl⟩ := Opt.checkTitleLine_ok ht
  dsimp only
  rcases hb : checkSenderRewardTokenBalance c.senderRewardTokenBalance (calcTotalReward accountStats)
    with _ | err
  · dsimp only
    split
    · exact .inl ⟨rfl, fun _ _ h => by cases h⟩
    · exact .inr ⟨accountStats, _, byWhat, fun h => hne (by rw [h]; rfl), rfl, rfl, hb, rfl⟩
  · exact .inl ⟨rfl, fun _ _ h => by cases h⟩

/-- A trace with the outcomes of its writes forgotten. -/
def eraseWrites (tr : List Event) : List Event :=
  tr.map fun
    | .write line _ => .write line none
    | e => e

@[simp] theorem eraseWrites_append (a b : List Event) :
    eraseWrites (a ++ b) = eraseWrites a ++ eraseWrites b :=
  List.map_append _ _ _

theorem length_eq_of_eraseWrites {tr tr' : List Event} (h : eraseWrites tr = eraseWrites tr') :
    tr.length = tr'.length := by
  simpa [eraseWrites] using congrArg List.length h

theorem eraseWrites_append_write (tr : List Event) (line : Line) (e e' : Option GoError) :
    eraseWrites (tr ++ [.write line e]) = eraseWrites (tr ++ [.write line e']) := by
  simp only [eraseWrites_append]
  rfl

/-- The title line is checked without writing. -/
theorem checkTitleLine_write (c : Collab) (write : Nat → Line → Option GoError) (opt : Opt)
    (titleLine : String) : opt.checkTitleLine { c with write := write } titleLine = opt.checkTitleLine c titleLine :=
  rfl

/-- **The loop ignores the writers' errors**: with other outcomes of the writes, it
returns the same error and the same rewards, and makes the same sends and writes. -/
theorem sendLoop_eraseWrites (c : Collab) (write : Nat → Line → Option GoError) (dryRun canSaveDB : Bool)
    (stats : List AccountStat) (rewardsSended : Int) {tr tr' : List Event}
    (h : eraseWrites tr' = eraseWrites tr) :
    let r := sendLoop c dryRun canSaveDB stats rewardsSended tr
    let r' := sendLoop { c with write := write } dryRun canSaveDB stats rewardsSended tr'
    r'.1 = r.1 ∧ r'.2.1 = r.2.1 ∧ eraseWrites r'.2.2 = eraseWrites r.2.2 := by
  induction stats generalizing rewardsSended tr tr' with
  | nil => exact ⟨rfl, rfl, h⟩
  | cons stat stats ih =>
    rcases stat.skip_or_pos with hskip | ⟨reward, hr, hpos⟩
    · simp only [sendLoop_cons_of_skip _ dryRun canSaveDB stats rewardsSended _ hskip]
      exact ih rewardsSended h
    simp only [sendLoop, hr, not_le.mpr hpos, ite_false, length_eq_of_eraseWrites h]
    generalize c.sendRewardsTransaction tr.length stat.account reward = res
    cases res with
    | error err => exact ⟨rfl, rfl, by simp [h]⟩
    | ok txHash =>
      exact ih (rewardsSended + reward) (by simp only [eraseWrites_append, h]; rfl)

/-- The check ignores the writer's error on the title. -/
theorem checkSendRewardsFromFile_eraseWrites (c : Collab) (write : Nat → Line → Option GoError)
    (opt : Opt) (tr : List Event) :
    let r := opt.checkSendRewardsFromFile c tr
    let r' := opt.checkSendRewardsFromFile { c with write := write } tr
    r'.1 = r.1 ∧ r'.2.1 = r.2.1 ∧ eraseWrites r'.2.2 = eraseWrites r.2.2 := by
  simp only [Opt.checkSendRewardsFromFile, checkTitleLine_write]
  split
  · exact ⟨rfl, rfl, rfl⟩
  rcases c.getAccountsAndRewardsFromFile with err | ⟨accountStats, titleLine⟩
  · exact ⟨rfl, rfl, rfl⟩
  dsimp only
  split
  · exact ⟨rfl, rfl, rfl⟩
  rcases opt.checkTitleLine c titleLine with err | opt
  · exact ⟨rfl, rfl, rfl⟩
  dsimp only
  rcases checkSenderRewardTokenBalance c.senderRewardTokenBalance (calcTotalReward accountStats) with _ | err
  · dsimp only
    split
    · exact ⟨rfl, rfl, rfl⟩
    · exact ⟨rfl, rfl, eraseWrites_append_write _ _ _ _⟩
  · exact ⟨rfl, rfl, rfl⟩

/-! ### Runs of `SendRewardsFromFile` -/

/-- A run whose check accepted a batch is the loop over it, from the check's trace. -/
theorem sendRewardsFromFile_of_check (c : Collab) (opt : Opt) {stats : List AccountStat}
    {canSaveDB : Bool} {opt' : Opt} {tr₀ : List Event}
    (h : opt.checkSendRewardsFromFile c [] = (.ok (stats, canSaveDB), opt', tr₀)) :
    opt.sendRewardsFromFile c =
      let r := sendLoop c opt'.dryRun canSaveDB stats 0 tr₀
      ⟨if opt'.totalValue.isNone then some .nilDeref else r.1, opt', r.2.1, r.2.2⟩ := by
  simp only [Opt.sendRewardsFromFile, h]

/-- A batch file of the entries `stats` under a title of five fields, with a sender's
balance of `balance`, a `CheckBasic` that fails, sends that succeed and writes with the
errors `write`. -/
def batchFile (stats : List AccountStat) (balance : Nat) (write : Nat → Line → Option GoError) :
    Collab where
  getAccountsAndRewardsFromFile := .ok (stats, "#account,reward,byLiquid,start,end")
  isCommentedLine := fun _ => true
  blankOrCommaSplit := fun _ => ["#account", "reward", "byLiquid", "start", "end"]
  setByWhat := .ok
  getStandardByWhat := id
  senderRewardTokenBalance := .ok balance
  checkBasic := some ⟨"no database"⟩
  sendRewardsTransaction := fun _ _ _ => .ok none
  write := write

/-- The magnitudes of the negative rewards of a batch: the total counts them, the loop skips
them. -/
def negativeTotal (stats : List AccountStat) : Int := (stats.map fun s => max 0 (-s.reward.getD 0)).sum

/-- The positive rewards add up to the total plus the magnitudes of the negative ones. -/
theorem sum_positives (stats : List AccountStat) :
    ((positives stats).map Prod.snd).sum = calcTotalReward stats + negativeTotal stats := by
  induction stats with
  | nil => rfl
  | cons stat stats ih =>
    simp only [calcTotalReward, negativeTotal, positives, List.map_cons, List.sum_cons,
      List.filterMap_cons] at ih ⊢
    rcases stat.reward with _ | reward
    · simp only [Option.none_bind, Option.getD_none, neg_zero, max_self]
      omega
    · by_cases h : 0 < reward
      · simp only [Option.some_bind, h, ite_true, List.map_cons, List.sum_cons, Option.getD_some]
        omega
      · simp only [Option.some_bind, h, ite_false, Option.getD_some]
        omega

theorem pos_of_mem_positives {stats : List AccountStat} {p : AccountStat × Int}
    (h : p ∈ positives stats) : 0 < p.2 := by
  obtain ⟨stat, -, hp⟩ := List.mem_filterMap.mp h
  rcases hr : stat.reward with _ | reward <;> simp only [hr, Option.none_bind, Option.some_bind] at hp
  · cases hp
  · split at hp
    · cases hp; assumption
    · cases hp

/-- A fail-fast batch over entries of non-negative rewards sends at most their sum. -/
theorem FailFast.sum_sentReward_le {P : List (AccountStat × Int)} {S : List SendRecord}
    (h : FailFast P S) (hP : ∀ p ∈ P, 0 ≤ p.2) : (S.map sentReward).sum ≤ (P.map Prod.snd).sum := by
  induction h with
  | nil => simp
  | sent _ ih =>
    simp only [List.map_cons, List.sum_cons, sentReward]
    have := ih fun p hp => hP p (List.mem_cons_of_mem _ hp)
    omega
  | @failed stat reward err P =>
    simp only [List.map_cons, List.map_nil, List.sum_cons, List.sum_nil, sentReward]
    have h0 := hP _ (List.mem_cons_self _ _)
    have hrest : 0 ≤ (P.map Prod.snd).sum :=
      List.sum_nonneg fun x hx => by
        obtain ⟨p, hp, rfl⟩ := List.mem_map.mp hx
        exact hP p (List.mem_cons_of_mem _ hp)
    omega

/-- A check that accepts a batch has found the sender's balance at least its total. -/
theorem checkSendRewardsFromFile_balance {c : Collab} {opt : Opt} {stats : List AccountStat}
    {canSaveDB : Bool} {opt' : Opt} {tr₀ : List Event} {balance : Nat}
    (h : opt.checkSendRewardsFromFile c [] = (.ok (stats, canSaveDB), opt', tr₀))
    (hb : c.senderRewardTokenBalance = .ok balance) : calcTotalReward stats ≤ balance := by
  rcases checkSendRewardsFromFile_cases c opt [] with ⟨-, hnil⟩ | ⟨stats', _, _, -, hok, -, hbal, -⟩
  · rw [h] at hnil
    rw [(hnil stats canSaveDB rfl).1]
    exact Int.natCast_nonneg balance
  · rw [h] at hok
    cases hok
    simpa only [checkSenderRewardTokenBalance, hb, ite_eq_right_iff, reduceCtorEq, imp_false,
      not_lt] using hbal

/-- **What is sent against the balance**: once the check accepts a batch against a
balance, the rewards `SendRewardsFromFile` counts as sent, which are those of the
transfers sent, add up to at most the balance plus the magnitudes of the batch's negative
rewards. -/
theorem sendRewardsFromFile_sended_le (c : Collab) (opt : Opt) {stats : List AccountStat}
    {canSaveDB : Bool} {opt' : Opt} {tr₀ : List Event} {balance : Nat}
    (h : opt.checkSendRewardsFromFile c [] = (.ok (stats, canSaveDB), opt', tr₀))
    (hb : c.senderRewardTokenBalance = .ok balance) :
    let run := opt.sendRewardsFromFile c
    run.rewardsSended = ((sendsOf (run.trace.drop tr₀.length)).map sentReward).sum ∧
      run.rewardsSended ≤ balance + negativeTotal stats := by
  obtain ⟨E, hE, hff, -, -, -, hsum⟩ := sendLoop_spec c opt'.dryRun canSaveDB stats 0 tr₀
  rw [sendRewardsFromFile_of_check c opt h]
  dsimp only
  rw [hE, List.drop_left, hsum, zero_add]
  refine ⟨rfl, ?_⟩
  have hle := hff.sum_sentReward_le fun p hp => (pos_of_mem_positives hp).le
  have htotal := checkSendRewardsFromFile_balance h hb
  rw [sum_positives] at hle
  omega

/-- The batch of a reward of `2` and one of `-1` against a balance of `1`. -/
theorem sendRewardsFromFile_sended_le_two_entries :
    let stats : List AccountStat := [⟨Address.zero, some 2⟩, ⟨Address.zero, some (-1)⟩]
    let c := batchFile stats 1 fun _ _ => none
    let opt : Opt := ⟨"rewards.txt", "", none, false, false⟩
    let tr₀ : List Event := [.write (.title "#account,reward,txhash") none]
    opt.checkSendRewardsFromFile c [] =
        (.ok (stats, false), { opt with byWhat := "byLiquid", totalValue := some 1 }, tr₀) ∧
      c.senderRewardTokenBalance = .ok 1 ∧
      ((opt.sendRewardsFromFile c).rewardsSended =
          ((sendsOf ((opt.sendRewardsFromFile c).trace.drop tr₀.length)).map sentReward).sum ∧
        (opt.sendRewardsFromFile c).rewardsSended ≤ 1 + negativeTotal stats) := by
  intro stats c opt tr₀
  have h : opt.checkSendRewardsFromFile c [] =
      (.ok (stats, false), { opt with byWhat := "byLiquid", totalValue := some 1 }, tr₀) := rfl
  exact ⟨h, rfl, sendRewardsFromFile_sended_le c opt h rfl⟩

/-- The check accepts a reward of `2` and one of `-1` against a balance of `1`, whose
total is `1`; the run then sends `2`. -/
theorem sendRewardsFromFile_negative_entry :
    let stats : List AccountStat := [⟨Address.zero, some 2⟩, ⟨Address.zero, some (-1)⟩]
    let c := batchFile stats 1 fun _ _ => none
    let opt : Opt := ⟨"rewards.txt", "", none, false, false⟩
    (opt.checkSendRewardsFromFile c []).1 = .ok (stats, false) ∧
      (opt.sendRewardsFromFile c).rewardsSended = 2 :=
  ⟨rfl, rfl⟩

/-- The check sends nothing and writes no body line; when it accepts a batch that is not
empty, the records can be saved iff `CheckBasic` passed. -/
theorem checkSendRewardsFromFile_trace (c : Collab) (opt : Opt) (tr : List Event) :
    let r := opt.checkSendRewardsFromFile c tr
    sendsOf r.2.2 = sendsOf tr ∧ (linesOf r.2.2).filter Line.isBody = (linesOf tr).filter Line.isBody ∧
      ∀ stats canSaveDB, r.1 = .ok (stats, canSaveDB) → stats = [] ∨ canSaveDB = c.checkBasic.isNone := by
  rcases checkSendRewardsFromFile_cases c opt tr with ⟨htr, hnil⟩ | ⟨stats, title, _, -, hok, -, -, htr⟩
  · exact ⟨by rw [htr], by rw [htr], fun stats canSaveDB h => .inl (hnil stats canSaveDB h).1⟩
  · refine ⟨by simp [htr], by simp [htr, Line.isBody], fun _ _ h => ?_⟩
    rw [hok] at h
    cases h
    exact .inr rfl

/-- **The lines of a run**: the body lines it writes are those of the transfers it sent,
one each, in order. -/
theorem sendRewardsFromFile_bodyLines (c : Collab) (opt : Opt) :
    let run := opt.sendRewardsFromFile c
    (linesOf run.trace).filter Line.isBody =
      (sendsOf run.trace).filterMap (sentLine run.opt.dryRun c.checkBasic.isNone) := by
  obtain ⟨hs, hl, hok⟩ := checkSendRewardsFromFile_trace c opt []
  rcases hr : opt.checkSendRewardsFromFile c [] with ⟨_ | ⟨stats, canSaveDB⟩, opt', tr₀⟩ <;>
    rw [hr] at hs hl hok <;> simp only [sendsOf_nil, linesOf_nil, List.filter_nil] at hs hl
  · simp [Opt.sendRewardsFromFile, hr, hs, hl]
  obtain ⟨E, hE, hff, -, -, hlines, -⟩ := sendLoop_spec c opt'.dryRun canSaveDB stats 0 tr₀
  rw [sendRewardsFromFile_of_check c opt hr]
  dsimp only
  have hbody : ∀ s ∈ (sendsOf E).filterMap (sentLine opt'.dryRun canSaveDB), s.isBody := by
    intro l hl'
    obtain ⟨⟨stat, reward, _ | txHash⟩, -, hsl⟩ := List.mem_filterMap.mp hl' <;> cases hsl
    unfold bodyLine
    split <;> rfl
  rw [hE, linesOf_append, sendsOf_append, List.filter_append, hl, hs, hlines,
    List.filter_eq_self.mpr hbody, List.nil_append, List.nil_append]
  rcases hok stats canSaveDB rfl with rfl | rfl
  · rw [FailFast.eq_nil_of_nil hff]
    rfl
  · rfl

/-- **The writers' errors are discarded**: whatever the outcomes of the writes,
`SendRewardsFromFile` returns the same error and the same rewards sent, and makes the same
sends and writes; and the body lines it writes are those of the transfers it sent, one
each, in order. A line is in the output record only if its write succeeded; when every
body line's write succeeded, the body lines of the output record are those of the
transfers sent. -/
theorem sendRewardsFromFile_writes (c : Collab) (opt : Opt) (write : Nat → Line → Option GoError) :
    let run := opt.sendRewardsFromFile c
    let run' := opt.sendRewardsFromFile { c with write := write }
    (run'.err = run.err ∧ run'.rewardsSended = run.rewardsSended ∧
        eraseWrites run'.trace = eraseWrites run.trace) ∧
      (linesOf run.trace).filter Line.isBody =
        (sendsOf run.trace).filterMap (sentLine run.opt.dryRun c.checkBasic.isNone) ∧
      ((∀ line e, Event.write line e ∈ run.trace → line.isBody → e = none) →
        (outputRecord run.trace).filter Line.isBody =
          (sendsOf run.trace).filterMap (sentLine run.opt.dryRun c.checkBasic.isNone)) := by
  refine ⟨?_, sendRewardsFromFile_bodyLines c opt,
    fun hw => (outputRecord_filter_isBody hw).trans (sendRewardsFromFile_bodyLines c opt)⟩
  obtain ⟨h₁, h₂, h₃⟩ := checkSendRewardsFromFile_eraseWrites c write opt []
  simp only [Opt.sendRewardsFromFile]
  generalize opt.checkSendRewardsFromFile c [] = r at h₁ h₂ h₃ ⊢
  generalize opt.checkSendRewardsFromFile { c with write := write } [] = r' at h₁ h₂ h₃ ⊢
  obtain ⟨res, o, t⟩ := r
  obtain ⟨res', o', t'⟩ := r'
  dsimp only at h₁ h₂ h₃
  subst h₁ h₂
  rcases res' with _ | ⟨stats, canSaveDB⟩
  · exact ⟨rfl, rfl, h₃⟩
  · obtain ⟨h₁, h₂, h₃⟩ := sendLoop_eraseWrites c write o'.dryRun canSaveDB stats 0 h₃
    refine ⟨?_, h₂, h₃⟩
    dsimp only
    rw [h₁]

/-- One reward of `5`, sent, whose body line fails to be written: the run returns `nil`,
and the output record holds the title only. -/
theorem sendRewardsFromFile_lost_line :
    let stats : List AccountStat := [⟨Address.zero, some 5⟩]
    let c := batchFile stats 5 fun _ line => if line.isBody then some ⟨"disk full"⟩ else none
    let opt : Opt := ⟨"rewards.txt", "", none, false, false⟩
    let run := opt.sendRewardsFromFile c
    run.err = none ∧ sendsOf run.trace = [(⟨Address.zero, some 5⟩, 5, .ok none)] ∧
      (outputRecord run.trace).length = 1 ∧ (outputRecord run.trace).all (!·.isBody) :=
  ⟨rfl, rfl, rfl, rfl⟩

end AnyTokenDistribution.Distributer
