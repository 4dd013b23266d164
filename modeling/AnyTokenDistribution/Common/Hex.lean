import AnyTokenDistribution.Common.Bytes

/-!
# Addresses as hex strings

How the distributer reads a sender address given as text and how it prints one:
`common.IsHexAddress`, `common.HexToAddress` (through `FromHex`, `Hex2Bytes` and
`BytesToAddress`), `Address.Hex`/`Address.String` with its EIP-55 checksum case, and
`strings.EqualFold`, with which `BuildTxArgs.Check` compares the two.

## The model

A Go string is a Lean `String`, read character by character. The functions here
only look at ASCII: `IsHexAddress` refuses any other character, whether it is read
as a character or as the bytes of its UTF-8 encoding, and the strings the
distributer hands to `HexToAddress` and `EqualFold` have passed `IsHexAddress` or
were printed by `Address.String`. `EqualFold` is therefore the ASCII case folding.
The Keccak-256 hash behind the checksum case is a parameter: no statement here
depends on which letters it upper-cases.

## What is proved

The round trip: the hex digits of an address, without `0x`, pass `IsHexAddress` and
read back as the address (`hexToAddress_encodeToString`); so does the printed address,
`0x` and the digits in their checksum case, whatever the hash (`hexToAddress_hex`),
which is `0x` followed by 40 digits (`length_hex`). The other way round, an even
number of hex digits decode to bytes that print as the digits in lower case
(`encodeToString_hex2Bytes`). So `EqualFold` matches a string with the printed address
exactly when the string is `0x` or `0X` followed by the address's 40 digits in any case
(`equalFold_hex_iff`): the checksum case is never checked.
-/

namespace AnyTokenDistribution.Common

/-! ### Reading -/

/-- `has0xPrefix`: the string starts with `0x` or `0X`. -/
def has0xPrefix (str : List Char) : Bool :=
  match str with
  | '0' :: c :: _ => c == 'x' || c == 'X'
  | _ => false

/-- `if has0xPrefix(s) { s = s[2:] }`, as `IsHexAddress` and `FromHex` both begin. -/
def strip0x (s : List Char) : List Char := if has0xPrefix s then s.drop 2 else s

/-- `isHexCharacter`. -/
def isHexCharacter (c : Char) : Bool :=
  decide ('0' ≤ c ∧ c ≤ '9') || decide ('a' ≤ c ∧ c ≤ 'f') || decide ('A' ≤ c ∧ c ≤ 'F')

/-- `isHex`: an even number of hex digits. -/
def isHex (str : List Char) : Bool := str.length % 2 == 0 && str.all isHexCharacter

/-- `common.IsHexAddress`: forty hex digits, after an optional `0x`. -/
def isHexAddress (s : String) : Bool :=
  let s := strip0x s.toList
  s.length == 2 * 20 && isHex s

/-- `fromHexChar` of `encoding/hex`: the value of a hex digit. -/
def fromHexChar (c : Char) : Option Nat :=
  if '0' ≤ c ∧ c ≤ '9' then some (c.toNat - '0'.toNat)
  else if 'a' ≤ c ∧ c ≤ 'f' then some (c.toNat - 'a'.toNat + 10)
  else if 'A' ≤ c ∧ c ≤ 'F' then some (c.toNat - 'A'.toNat + 10)
  else none

/-- `hex.DecodeString`, as `common.Hex2Bytes` keeps its result and drops its error:
the bytes of the leading pairs of hex digits, up to the first pair that is not one. -/
def hex2Bytes : List Char → List UInt8
  | p :: q :: rest =>
    match fromHexChar p, fromHexChar q with
    | some a, some b => (a * 16 + b).toUInt8 :: hex2Bytes rest
    | _, _ => []
  | _ => []

/-- `common.FromHex`: drop `0x`, put a `0` in front of an odd number of digits, decode. -/
def fromHex (s : String) : List UInt8 :=
  let s := strip0x s.toList
  hex2Bytes (if s.length % 2 = 1 then '0' :: s else s)

/-- `common.BytesToAddress`: the last 20 bytes, zeros in front if there are fewer. -/
def bytesToAddress (b : List UInt8) : Address :=
  ⟨leftPadBytes (b.drop (b.length - 20)) 20, by simp; omega⟩

/-- `common.HexToAddress`. -/
def hexToAddress (s : String) : Address := bytesToAddress (fromHex s)

/-! ### Printing -/

/-- `hextable` of `encoding/hex`. -/
def hextable : List Char := "0123456789abcdef".toList

/-- `hex.EncodeToString`: two lower-case digits a byte. -/
def encodeToString (src : List UInt8) : List Char :=
  src.flatMap fun v => [hextable.getD (v.toNat / 16) '0', hextable.getD (v.toNat % 16) '0']

/-- `Address.Hex`, which `Address.String` returns: `0x` and the lower-case digits of
the bytes, the letter at position `i` upper-cased when nibble `i` of the Keccak-256
hash of the lower-case digits is above 7 (EIP-55). -/
def Address.hex (keccak256 : List UInt8 → List UInt8) (a : Address) : String :=
  let unchecksummed := encodeToString a.bytes
  let hash := keccak256 (unchecksummed.map fun c => c.toNat.toUInt8)
  let result := unchecksummed.mapIdx fun i c =>
    let hashByte := (hash.getD (i / 2) 0).toNat
    let nibble := if i % 2 = 0 then hashByte / 16 else hashByte % 16
    if '9' < c ∧ 7 < nibble then Char.ofNat (c.toNat - 32) else c
  ⟨'0' :: 'x' :: result⟩

/-- `strings.EqualFold` on ASCII text: equal once `A`–`Z` are read as `a`–`z`. -/
def equalFold (s t : String) : Bool := s.toList.map Char.toLower == t.toList.map Char.toLower

/-! ### Round trip -/

private theorem fromHexChar_hextable : ∀ n, n < 16 → fromHexChar (hextable.getD n '0') = some n := by
  decide

private theorem toUInt8_toNat (v : UInt8) : Nat.toUInt8 v.toNat = v :=
  UInt8.toNat.inj (UInt8.toNat_ofNat_of_lt v.toNat_lt_size)

@[simp] theorem length_encodeToString (src : List UInt8) :
    (encodeToString src).length = 2 * src.length := by
  induction src with
  | nil => rfl
  | cons v vs ih => simp [encodeToString, List.flatMap_cons] at ih ⊢; omega

theorem hex2Bytes_encodeToString (src : List UInt8) : hex2Bytes (encodeToString src) = src := by
  induction src with
  | nil => rfl
  | cons v vs ih =>
    have h1 := fromHexChar_hextable (v.toNat / 16) (by have := UInt8.toNat_lt_256 v; omega)
    have h2 := fromHexChar_hextable (v.toNat % 16) (by omega)
    have hv : v.toNat / 16 * 16 + v.toNat % 16 = v.toNat := by omega
    simp only [encodeToString, List.flatMap_cons, List.cons_append, List.nil_append] at ih ⊢
    simp only [hex2Bytes, h1, h2, hv, toUInt8_toNat, ih]

private theorem isHexCharacter_hextable : ∀ n, n < 16 → isHexCharacter (hextable.getD n '0') = true := by
  decide

theorem all_isHexCharacter_encodeToString (src : List UInt8) :
    (encodeToString src).all isHexCharacter = true := by
  induction src with
  | nil => rfl
  | cons v vs ih =>
    simp only [encodeToString, List.flatMap_cons, List.all_append, List.all_cons, List.all_nil] at ih ⊢
    rw [isHexCharacter_hextable _ (by have := UInt8.toNat_lt_256 v; omega),
      isHexCharacter_hextable _ (by omega), ih]
    rfl

private theorem has0xPrefix_encodeToString (src : List UInt8) :
    has0xPrefix (encodeToString src) = false := by
  cases src with
  | nil => rfl
  | cons v vs =>
    have hx : ∀ n, n < 16 → (hextable.getD n '0' == 'x' || hextable.getD n '0' == 'X') = false := by
      decide
    simp only [encodeToString, List.flatMap_cons, List.cons_append]
    unfold has0xPrefix
    split
    · next c _ heq =>
      rw [← (List.cons.inj (List.cons.inj heq).2).1]
      exact hx _ (Nat.mod_lt _ (by decide))
    · rfl

/-- The forty digits of an address, without `0x`, pass the format check. -/
theorem isHexAddress_encodeToString (a : Address) :
    isHexAddress ⟨encodeToString a.bytes⟩ = true := by
  simp [isHexAddress, strip0x, has0xPrefix_encodeToString, isHex, a.length_bytes,
    all_isHexCharacter_encodeToString]

/-- The forty digits of an address, without `0x`, read back as the address. -/
theorem hexToAddress_encodeToString (a : Address) : hexToAddress ⟨encodeToString a.bytes⟩ = a := by
  have h := a.length_bytes
  have hb : (encodeToString a.bytes).length % 2 = 0 := by simp
  simp only [hexToAddress, fromHex, strip0x, has0xPrefix_encodeToString, hb, String.toList]
  simp only [Bool.false_eq_true, ite_false, zero_ne_one, hex2Bytes_encodeToString, bytesToAddress]
  ext1
  simp [h, leftPadBytes_of_le, hex2Bytes_encodeToString]

/-- Whatever the hash, the printed address is `0x` and forty digits. -/
theorem length_hex (keccak256 : List UInt8 → List UInt8) (a : Address) :
    (a.hex keccak256).length = 42 := by
  have h : (encodeToString a.bytes).length = 40 := by simp [a.length_bytes]
  simp only [Address.hex, String.length, List.length_cons, List.length_mapIdx, h]

/-! ### The checksum case -/

/-- Replacing each character by one with the same hex value keeps the bytes. -/
theorem hex2Bytes_mapIdx (l : List Char) (f : Nat → Char → Char)
    (hf : ∀ i, ∀ c ∈ l, fromHexChar (f i c) = fromHexChar c) :
    hex2Bytes (l.mapIdx f) = hex2Bytes l := by
  induction l using hex2Bytes.induct generalizing f with
  | case1 p q rest a b hq hp ih =>
    have e₁ : fromHexChar (f 0 p) = some a := (hf 0 p (List.mem_cons_self _ _)).trans hp
    have e₂ : fromHexChar (f (0 + 1) q) = some b :=
      (hf _ q (List.mem_cons_of_mem _ (List.mem_cons_self _ _))).trans hq
    simp only [List.mapIdx_cons, hex2Bytes, e₁, e₂, hp, hq]
    rw [ih _ fun i c hc => hf _ c (List.mem_cons_of_mem _ (List.mem_cons_of_mem _ hc))]
  | case2 p q rest hpq =>
    have e₁ : fromHexChar (f 0 p) = fromHexChar p := hf 0 p (List.mem_cons_self _ _)
    have e₂ : fromHexChar (f (0 + 1) q) = fromHexChar q :=
      hf _ q (List.mem_cons_of_mem _ (List.mem_cons_self _ _))
    simp only [List.mapIdx_cons, hex2Bytes, e₁, e₂]
  | case3 t ht =>
    match t, ht with
    | [], _ => rfl
    | [x], _ => rfl
    | p :: q :: rest, ht => exact (ht p q rest rfl).elim

private theorem hextable_checksum : ∀ c ∈ hextable,
    fromHexChar (if '9' < c then Char.ofNat (c.toNat - 32) else c) = fromHexChar c ∧
      isHexCharacter (if '9' < c then Char.ofNat (c.toNat - 32) else c) = true ∧
      isHexCharacter c = true := by
  decide

/-- A lower-case hex digit keeps its value, and stays a hex digit, when `Address.Hex`
upper-cases it. -/
theorem checksum_hexDigit {c : Char} (hc : c ∈ hextable) (P : Prop) [Decidable P] :
    fromHexChar (if '9' < c ∧ P then Char.ofNat (c.toNat - 32) else c) = fromHexChar c ∧
      isHexCharacter (if '9' < c ∧ P then Char.ofNat (c.toNat - 32) else c) = true := by
  by_cases hP : P
  · simp only [hP, and_true]
    exact ⟨(hextable_checksum c hc).1, (hextable_checksum c hc).2.1⟩
  · simp only [hP, and_false, ite_false]
    exact ⟨trivial, (hextable_checksum c hc).2.2⟩

/-- The digits of bytes are lower-case hex digits. -/
theorem mem_hextable_encodeToString {src : List UInt8} {c : Char} (h : c ∈ encodeToString src) :
    c ∈ hextable := by
  obtain ⟨v, -, hv⟩ := List.mem_flatMap.mp h
  have hi : ∀ n, n < 16 → hextable.getD n '0' ∈ hextable := by decide
  simp only [List.mem_cons, List.not_mem_nil, or_false] at hv
  rcases hv with rfl | rfl
  · exact hi _ (by have := UInt8.toNat_lt_256 v; omega)
  · exact hi _ (Nat.mod_lt _ (by decide))

theorem bytesToAddress_bytes (a : Address) : bytesToAddress a.bytes = a := by
  ext1
  simp [bytesToAddress, a.length_bytes, leftPadBytes_of_le]

/-- Forty digits after `0x`, each with the value and the kind of the corresponding digit
of an address, form a hex address that reads back as it. -/
theorem hexToAddress_cased (a : Address) (g : Nat → Char → Char)
    (hg : ∀ i, ∀ c ∈ encodeToString a.bytes,
      fromHexChar (g i c) = fromHexChar c ∧ isHexCharacter (g i c) = true) :
    let s : String := ⟨'0' :: 'x' :: (encodeToString a.bytes).mapIdx g⟩
    isHexAddress s = true ∧ hexToAddress s = a := by
  have hlen : (encodeToString a.bytes).length = 40 := by simp [a.length_bytes]
  have hstrip : strip0x ('0' :: 'x' :: (encodeToString a.bytes).mapIdx g) =
      (encodeToString a.bytes).mapIdx g := rfl
  refine ⟨?_, ?_⟩
  · simp only [isHexAddress, isHex, String.toList, hstrip, List.length_mapIdx, hlen]
    refine List.all_eq_true.mpr fun c hc => ?_
    obtain ⟨i, hi, rfl⟩ := List.exists_of_mem_mapIdx hc
    exact (hg i _ (List.getElem_mem hi)).2
  · have hodd : ¬(40 % 2 = 1) := by decide
    simp only [hexToAddress, fromHex, String.toList, hstrip, List.length_mapIdx, hlen, hodd, ite_false]
    rw [hex2Bytes_mapIdx _ _ fun i c hc => (hg i c hc).1, hex2Bytes_encodeToString]
    exact bytesToAddress_bytes a

/-- **The printed address reads back**: `Address.String()`, in its checksum case, is a hex
address that `HexToAddress` reads back as the address, whatever the hash. -/
theorem hexToAddress_hex (keccak256 : List UInt8 → List UInt8) (a : Address) :
    isHexAddress (a.hex keccak256) = true ∧ hexToAddress (a.hex keccak256) = a :=
  hexToAddress_cased a _ fun _ _ hc => checksum_hexDigit (mem_hextable_encodeToString hc) _

/-! ### Comparing in any case

`Check` compares the sender with the printed address by `strings.EqualFold`. The digits
are read through their code points: `toLower` moves `A`–`Z` up by `32`, and a hex digit's
value is its distance from `0`, `a` or `A`. -/

/-- `Char.ofNat` of a code point below the surrogates is that code point. -/
theorem toNat_ofNat_of_lt {n : Nat} (h : n < 0xd800) : (Char.ofNat n).toNat = n := by
  rw [Char.ofNat, dif_pos (Or.inl h)]
  rfl

theorem char_eq_iff_toNat {c d : Char} : c = d ↔ c.toNat = d.toNat :=
  ⟨congrArg _, fun h => by rw [← Char.ofNat_toNat c, h, Char.ofNat_toNat]⟩

theorem char_le_iff {c d : Char} : c ≤ d ↔ c.toNat ≤ d.toNat := Iff.rfl

theorem toNat_toLower_of_upper {c : Char} (h : 65 ≤ c.toNat ∧ c.toNat ≤ 90) :
    c.toLower.toNat = c.toNat + 32 := by
  simp only [Char.toLower, ge_iff_le, if_pos h]
  exact toNat_ofNat_of_lt (by omega)

theorem toLower_of_not_upper {c : Char} (h : ¬(65 ≤ c.toNat ∧ c.toNat ≤ 90)) : c.toLower = c := by
  simp only [Char.toLower, ge_iff_le, if_neg h]

/-- The code points at the ends of the three ranges of hex digits. -/
theorem toNat_hex_bounds : ('0' : Char).toNat = 48 ∧ ('9' : Char).toNat = 57 ∧
    ('a' : Char).toNat = 97 ∧ ('f' : Char).toNat = 102 ∧ ('A' : Char).toNat = 65 ∧
    ('F' : Char).toNat = 70 :=
  ⟨rfl, rfl, rfl, rfl, rfl, rfl⟩

theorem isHexCharacter_iff (c : Char) : isHexCharacter c = true ↔
    (48 ≤ c.toNat ∧ c.toNat ≤ 57) ∨ (97 ≤ c.toNat ∧ c.toNat ≤ 102) ∨ (65 ≤ c.toNat ∧ c.toNat ≤ 70) := by
  simp only [isHexCharacter, char_le_iff, Bool.or_eq_true, decide_eq_true_eq, toNat_hex_bounds,
    or_assoc]

theorem fromHexChar_digit {c : Char} (h : 48 ≤ c.toNat ∧ c.toNat ≤ 57) :
    fromHexChar c = some (c.toNat - 48) := by
  simp only [fromHexChar, char_le_iff, toNat_hex_bounds, if_pos h]

theorem fromHexChar_lower {c : Char} (h : 97 ≤ c.toNat ∧ c.toNat ≤ 102) :
    fromHexChar c = some (c.toNat - 87) := by
  have h₁ : ¬(48 ≤ c.toNat ∧ c.toNat ≤ 57) := by omega
  simp only [fromHexChar, char_le_iff, toNat_hex_bounds, if_neg h₁, if_pos h, Option.some.injEq]
  omega

theorem fromHexChar_upper {c : Char} (h : 65 ≤ c.toNat ∧ c.toNat ≤ 70) :
    fromHexChar c = some (c.toNat - 55) := by
  have h₁ : ¬(48 ≤ c.toNat ∧ c.toNat ≤ 57) := by omega
  have h₂ : ¬(97 ≤ c.toNat ∧ c.toNat ≤ 102) := by omega
  simp only [fromHexChar, char_le_iff, toNat_hex_bounds, if_neg h₁, if_neg h₂, if_pos h, Option.some.injEq]
  omega

theorem toNat_of_mem_hextable : ∀ d ∈ hextable,
    (48 ≤ d.toNat ∧ d.toNat ≤ 57) ∨ (97 ≤ d.toNat ∧ d.toNat ≤ 102) := by decide

theorem toNat_hextable_digit : ∀ v < 10, (hextable.getD v '0').toNat = 48 + v := by decide

theorem toNat_hextable_letter : ∀ v < 6, (hextable.getD (10 + v) '0').toNat = 97 + v := by decide

theorem toLower_eq_zero {c : Char} (h : c.toLower = '0') : c = '0' := by
  by_cases hu : 65 ≤ c.toNat ∧ c.toNat ≤ 90
  · have := toNat_toLower_of_upper hu
    rw [h] at this
    exact absurd this (by rw [toNat_hex_bounds.1]; omega)
  · rwa [toLower_of_not_upper hu] at h

theorem toLower_eq_x {c : Char} (h : c.toLower = 'x') : c = 'x' ∨ c = 'X' := by
  by_cases hu : 65 ≤ c.toNat ∧ c.toNat ≤ 90
  · have := toNat_toLower_of_upper hu
    rw [h, show ('x' : Char).toNat = 120 from rfl] at this
    exact .inr (char_eq_iff_toNat.mpr (by rw [show ('X' : Char).toNat = 88 from rfl]; omega))
  · exact .inl (by rwa [toLower_of_not_upper hu] at h)

/-- A character whose lower case is a digit of `hextable` is a hex digit of the same
value. -/
theorem isHexCharacter_of_toLower_mem {c : Char} (h : c.toLower ∈ hextable) :
    isHexCharacter c = true ∧ fromHexChar c = fromHexChar c.toLower := by
  have hr := toNat_of_mem_hextable _ h
  by_cases hu : 65 ≤ c.toNat ∧ c.toNat ≤ 90
  · have hl := toNat_toLower_of_upper hu
    have hA : 65 ≤ c.toNat ∧ c.toNat ≤ 70 := by omega
    have ha : 97 ≤ c.toLower.toNat ∧ c.toLower.toNat ≤ 102 := by omega
    refine ⟨(isHexCharacter_iff c).mpr (.inr (.inr hA)), ?_⟩
    rw [fromHexChar_upper hA, fromHexChar_lower ha, hl, Option.some.injEq]
    omega
  · rw [toLower_of_not_upper hu] at hr ⊢
    exact ⟨(isHexCharacter_iff c).mpr (by omega), rfl⟩

/-- A hex digit is read as the value whose digit in `hextable` is its lower case. -/
theorem hextable_getD_fromHexChar {c : Char} (h : isHexCharacter c = true) :
    ∃ v < 16, fromHexChar c = some v ∧ hextable.getD v '0' = c.toLower := by
  rcases (isHexCharacter_iff c).mp h with h | h | h
  · refine ⟨c.toNat - 48, by omega, fromHexChar_digit h, ?_⟩
    rw [toLower_of_not_upper (by omega), char_eq_iff_toNat, toNat_hextable_digit _ (by omega)]
    omega
  · refine ⟨c.toNat - 87, by omega, fromHexChar_lower h, ?_⟩
    rw [toLower_of_not_upper (by omega), char_eq_iff_toNat,
      show c.toNat - 87 = 10 + (c.toNat - 97) by omega, toNat_hextable_letter _ (by omega)]
    omega
  · refine ⟨c.toNat - 55, by omega, fromHexChar_upper h, ?_⟩
    rw [char_eq_iff_toNat, toNat_toLower_of_upper (by omega),
      show c.toNat - 55 = 10 + (c.toNat - 65) by omega, toNat_hextable_letter _ (by omega)]
    omega

private theorem hextable_lower : ∀ c ∈ hextable,
    c.toLower = c ∧ ('9' < c → (Char.ofNat (c.toNat - 32)).toLower = c) := by
  decide

/-- `Address.Hex` upper-cases only letters, which `toLower` turns back. -/
theorem toLower_checksum {c : Char} (hc : c ∈ hextable) (P : Prop) [Decidable P] :
    (if '9' < c ∧ P then Char.ofNat (c.toNat - 32) else c).toLower = c := by
  by_cases h : '9' < c ∧ P
  · rw [if_pos h]
    exact (hextable_lower c hc).2 h.1
  · rw [if_neg h]
    exact (hextable_lower c hc).1

/-- Mapping `g` after an indexed map that `g` undoes on the elements gives the list back. -/
theorem map_mapIdx_of_forall (l : List Char) (f : Nat → Char → Char) (g : Char → Char)
    (h : ∀ i, ∀ c ∈ l, g (f i c) = c) : (l.mapIdx f).map g = l := by
  induction l generalizing f with
  | nil => rfl
  | cons c l ih =>
    rw [List.mapIdx_cons, List.map_cons, h 0 c (List.mem_cons_self _ _),
      ih _ fun i d hd => h (i + 1) d (List.mem_cons_of_mem _ hd)]

/-- `Address.String()` in lower case is `0x` and the digits of the address. -/
theorem map_toLower_hex (keccak256 : List UInt8 → List UInt8) (a : Address) :
    (a.hex keccak256).toList.map Char.toLower = '0' :: 'x' :: encodeToString a.bytes := by
  simp only [Address.hex, String.toList, List.map_cons]
  refine congrArg₂ _ rfl (congrArg₂ _ rfl (map_mapIdx_of_forall _ _ _ fun i c hc => ?_))
  exact toLower_checksum (mem_hextable_encodeToString hc) _

theorem has0xPrefix_iff (l : List Char) :
    has0xPrefix l = true ↔ ∃ c rest, l = '0' :: c :: rest ∧ (c = 'x' ∨ c = 'X') := by
  unfold has0xPrefix
  split
  · simp
  · next h =>
    simp only [Bool.false_eq_true, false_iff, not_exists, not_and]
    exact fun c rest hl => (h c rest hl).elim

theorem mapIdx_eq_map (l : List Char) (g : Char → Char) : l.mapIdx (fun _ c => g c) = l.map g :=
  List.mapIdx_eq_iff.mpr fun i => by rw [List.getElem?_map]

/-- **Decoding, then printing**: an even number of hex digits decode to bytes whose
digits are the given ones in lower case. -/
theorem encodeToString_hex2Bytes (l : List Char) (hl : ∀ c ∈ l, isHexCharacter c = true)
    (heven : l.length % 2 = 0) : encodeToString (hex2Bytes l) = l.map Char.toLower := by
  induction l using hex2Bytes.induct with
  | case1 p q rest a b hq hp ih =>
    obtain ⟨v, hv, hpv, hgp⟩ := hextable_getD_fromHexChar (hl p (List.mem_cons_self _ _))
    obtain ⟨w, hw, hqw, hgq⟩ :=
      hextable_getD_fromHexChar (hl q (List.mem_cons_of_mem _ (List.mem_cons_self _ _)))
    rw [hp, Option.some.injEq] at hpv
    rw [hq, Option.some.injEq] at hqw
    subst hpv hqw
    have hx : (Nat.toUInt8 (a * 16 + b)).toNat = a * 16 + b :=
      UInt8.toNat_ofNat_of_lt (by rw [show UInt8.size = 256 from rfl]; omega)
    have h₁ : (a * 16 + b) / 16 = a := by omega
    have h₂ : (a * 16 + b) % 16 = b := by omega
    simp only [hex2Bytes, hp, hq, encodeToString, List.flatMap_cons, List.map_cons, hx, h₁, h₂,
      hgp, hgq, List.cons_append, List.nil_append] at ih ⊢
    rw [ih (fun c hc => hl c (List.mem_cons_of_mem _ (List.mem_cons_of_mem _ hc)))
      (by simp only [List.length_cons] at heven; omega)]
  | case2 p q rest hpq =>
    obtain ⟨v, -, hpv, -⟩ := hextable_getD_fromHexChar (hl p (List.mem_cons_self _ _))
    obtain ⟨w, -, hqw, -⟩ :=
      hextable_getD_fromHexChar (hl q (List.mem_cons_of_mem _ (List.mem_cons_self _ _)))
    exact absurd hqw (hpq v w hpv)
  | case3 t ht =>
    rcases t with _ | ⟨p, _ | ⟨q, rest⟩⟩
    · rfl
    · simp at heven
    · exact (ht p q rest rfl).elim

/-- Bytes of length `20` read as an address are that address. -/
theorem bytes_of_bytesToAddress {b : List UInt8} {a : Address} (hb : b.length = 20)
    (h : bytesToAddress b = a) : b = a.bytes := by
  rw [← h]
  simp [bytesToAddress, hb, leftPadBytes_of_le]

/-- **Which strings `EqualFold` matches with a printed address**: `s` equals
`a.String()` up to case exactly when it is `0x` or `0X` followed by 40 hex digits that
`HexToAddress` reads as `a`, in any case: the checksum case is not checked, and a
string without the prefix never matches. -/
theorem equalFold_hex_iff (keccak256 : List UInt8 → List UInt8) (a : Address) (s : String) :
    equalFold s (a.hex keccak256) = true ↔
      has0xPrefix s.toList = true ∧ isHexAddress s = true ∧ hexToAddress s = a := by
  obtain ⟨l⟩ := s
  have hodd : ¬(40 % 2 = 1) := by decide
  rw [equalFold, beq_iff_eq, map_toLower_hex]
  simp only [String.toList]
  constructor
  · intro h
    obtain ⟨c₀, l₁, rfl, h₀, h₁⟩ := List.map_eq_cons_iff.mp h
    obtain ⟨c₁, rest, rfl, hx, hrest⟩ := List.map_eq_cons_iff.mp h₁
    obtain rfl := toLower_eq_zero h₀
    have hpre : has0xPrefix ('0' :: c₁ :: rest) = true :=
      (has0xPrefix_iff _).mpr ⟨c₁, rest, rfl, toLower_eq_x hx⟩
    have hstrip : strip0x ('0' :: c₁ :: rest) = rest := by simp [strip0x, hpre]
    have hlen : rest.length = 40 := by
      rw [← List.length_map rest Char.toLower, hrest, length_encodeToString, a.length_bytes]
    have hdig : ∀ c ∈ rest, isHexCharacter c = true ∧ fromHexChar c = fromHexChar c.toLower :=
      fun c hc => isHexCharacter_of_toLower_mem
        (mem_hextable_encodeToString (hrest ▸ List.mem_map_of_mem _ hc))
    have hbytes : hex2Bytes rest = a.bytes := by
      rw [← hex2Bytes_mapIdx rest (fun _ c => c.toLower) (fun _ c hc => (hdig c hc).2.symm),
        mapIdx_eq_map, hrest, hex2Bytes_encodeToString]
    refine ⟨hpre, ?_, ?_⟩
    · simp only [isHexAddress, isHex, String.toList, hstrip, hlen, List.all_eq_true]
      exact by simpa using fun c hc => (hdig c hc).1
    · simp only [hexToAddress, fromHex, String.toList, hstrip, hlen, hodd, ite_false, hbytes]
      exact bytesToAddress_bytes a
  · rintro ⟨hpre, hhex, ha⟩
    obtain ⟨c₁, rest, rfl, hc₁⟩ := (has0xPrefix_iff _).mp hpre
    have hstrip : strip0x ('0' :: c₁ :: rest) = rest := by simp [strip0x, hpre]
    simp only [isHexAddress, isHex, String.toList, hstrip, Bool.and_eq_true, beq_iff_eq,
      List.all_eq_true] at hhex
    obtain ⟨hlen, -, hall⟩ := hhex
    have henc := encodeToString_hex2Bytes rest hall (by omega)
    have h20 : (hex2Bytes rest).length = 20 := by
      have := congrArg List.length henc
      rw [length_encodeToString, List.length_map, hlen] at this
      omega
    simp only [hexToAddress, fromHex, String.toList, hstrip, hlen, hodd, ite_false] at ha
    rw [← bytes_of_bytesToAddress h20 ha, henc, List.map_cons, List.map_cons]
    rcases hc₁ with rfl | rfl <;> rfl

end AnyTokenDistribution.Common
