import Mathlib.Data.BitVec
import Mathlib.Data.Finset.Card
import Mathlib.Data.Nat.Cast.Basic
import SpotSdk.Foundations.HornerHashes

/-!
# Keys of signal schemas

The hash of a key is taken over its salt in decimal, its client name and its schema, one
after the other. A replacement hash is the one for the next salt. Of one key the first
`10 ^ 10` hashes are distinct, so a free one is found after as many replacements as there
are hashes taken. Two keys whose texts have one length collide at every salt if they collide
at one, and then only at equal salts.

## Implementation notes

Whether a plain `char` is signed is left to the compiler, and so it is left open here.
-/

namespace SpotSdk.Client

open Foundations

inductive CharSignedness
  | signed
  | unsigned
  deriving DecidableEq, Repr

/-- `static_cast<int>` of a `char`. -/
def intOfChar : CharSignedness → UInt8 → Int
  | .signed, c => c.toInt8.toInt
  | .unsigned, c => c.toNat

/-- `std::to_string` of a `uint64_t`. -/
def decimal (n : BitVec 64) : List UInt8 :=
  (Nat.toDigits 10 n.toNat).map fun c => c.toNat.toUInt8

/-- `djb2`. -/
def djb2 (char : CharSignedness) (str : List UInt8) : BitVec 64 :=
  str.foldl (fun hash c => ((hash <<< 5) + hash) + BitVec.ofInt 64 (intOfChar char c)) 5381

structure SignalSchemaKey where
  clientName : List UInt8
  serializedSchema : List UInt8
  salt : BitVec 64 := 0
  hash : BitVec 64 := 0
  deriving DecidableEq

namespace SignalSchemaKey

variable (char : CharSignedness)

/-- `ComputeHash`. -/
def computeHash (key : SignalSchemaKey) : SignalSchemaKey :=
  let repr := decimal key.salt ++ key.clientName ++ key.serializedSchema
  { key with hash := djb2 char repr }

/-- The constructor. -/
def new (clientName serializedSchema : List UInt8) : SignalSchemaKey :=
  ({ clientName, serializedSchema } : SignalSchemaKey).computeHash char

/-- `GenerateReplacementHash`, which returns the hash it stores. -/
def generateReplacementHash (key : SignalSchemaKey) : SignalSchemaKey :=
  { key with salt := key.salt + 1 }.computeHash char

/-- A new key after some replacements. -/
def replaced (clientName serializedSchema : List UInt8) (n : Nat) : SignalSchemaKey :=
  (generateReplacementHash char)^[n] (new char clientName serializedSchema)

end SignalSchemaKey

/-! ## The hash of a text -/

section Hash

variable {char : CharSignedness} {str suffix : List UInt8}

/-- The word that a `char` adds to the hash. -/
def charWord (char : CharSignedness) (c : UInt8) : BitVec 64 :=
  BitVec.ofInt 64 (intOfChar char c)

theorem djb2_eq (char : CharSignedness) (str : List UInt8) :
    djb2 char str = hornerHash 33 5381 (str.map (charWord char)) := by
  rw [djb2, hornerHash, List.foldl_map]
  congr 1
  funext hash c
  have shifted : hash <<< 5 = hash * 32 := by
    rw [BitVec.shiftLeft_eq_mul_twoPow]
    rfl
  rw [shifted, charWord]
  ring

theorem djb2_append (char : CharSignedness) (str suffix : List UInt8) :
    djb2 char (str ++ suffix) = hornerHash 33 (djb2 char str) (suffix.map (charWord char)) := by
  rw [djb2_eq, djb2_eq, List.map_append, hornerHash_append]

/-- 33 is odd. -/
theorem isUnit_base : IsUnit (33 : BitVec 64) :=
  IsUnit.of_mul_eq_one (1117984489315730401 : BitVec 64) (by decide)

/-- A digit is the same in both kinds of `char`. -/
theorem charWord_of_ascii {c : UInt8} (ascii : c.toNat < 128) :
    charWord char c = (c.toNat : BitVec 64) := by
  cases char with
  | unsigned => simp [charWord, intOfChar]
  | signed =>
      have value : c.toInt8.toInt = c.toNat := by
        change c.toBitVec.toInt = c.toBitVec.toNat
        exact BitVec.toInt_eq_toNat_of_lt (by change 2 * c.toNat < 2 ^ 8; omega)
      simp [charWord, intOfChar, value]

/-- A hash that does not overflow is the hash over the natural numbers. -/
theorem djb2_ascii (ascii : ∀ c ∈ str, c.toNat < 128) :
    djb2 char str = ((hornerHash 33 5381 (str.map UInt8.toNat) : Nat) : BitVec 64) := by
  have words : str.map (charWord char) = (str.map UInt8.toNat).map (Nat.castRingHom (BitVec 64)) := by
    rw [List.map_map]
    exact List.map_congr_left fun c member => charWord_of_ascii (ascii c member)
  rw [djb2_eq, words]
  exact (map_hornerHash (Nat.castRingHom (BitVec 64)) 33 5381 _).symm

end Hash

/-! ## Salts -/

section Salts

variable {char : CharSignedness} {salt salt' : BitVec 64} {x : Nat}

/-- The codes of the characters of a salt. -/
def saltCodes (salt : BitVec 64) : List Nat :=
  (Nat.toDigits 10 salt.toNat).map Char.toNat

/-- They are digits. -/
theorem mem_saltCodes (member : x ∈ saltCodes salt) : 48 ≤ x ∧ x ≤ 57 := by
  obtain ⟨digit, digits, rfl⟩ := List.mem_map.mp member
  have isDigit := Nat.isDigit_of_mem_toDigits (by decide) (by decide) digits
  rw [Char.isDigit, Bool.and_eq_true, decide_eq_true_iff, decide_eq_true_iff] at isDigit
  exact isDigit

theorem map_decimal (salt : BitVec 64) : (decimal salt).map UInt8.toNat = saltCodes salt := by
  rw [decimal, saltCodes, List.map_map]
  apply List.map_congr_left
  intro digit digits
  have code := mem_saltCodes (List.mem_map_of_mem (f := Char.toNat) digits)
  rw [Function.comp_apply, Nat.toUInt8, UInt8.toNat_ofNat']
  omega

theorem saltCodes_injective (same : saltCodes salt = saltCodes salt') : salt = salt' := by
  have toNat_injective : Function.Injective Char.toNat := fun _ _ => Char.toNat_inj.mp
  have digits := List.map_injective_iff.mpr toNat_injective same
  have value := congrArg (Nat.ofDigitChars 10 · 0) digits
  simp only [Nat.ofDigitChars_ten_toDigits] at value
  exact BitVec.eq_of_toNat_eq value

/-- The hash of a salt of ten digits does not overflow. -/
theorem saltHash_lt (short : salt.toNat < 10 ^ 10) :
    hornerHash 33 5381 (saltCodes salt) < 2 ^ 64 := by
  have length : (saltCodes salt).length ≤ 10 := by
    rw [saltCodes, List.length_map]
    exact (Nat.length_toDigits_le_iff (by decide) (by decide)).mpr short
  have bound : hornerHash 33 5381 (saltCodes salt) + 2 ≤
      (5381 + 2) * 33 ^ (saltCodes salt).length :=
    hornerHash_add_le (by decide) fun x member => (mem_saltCodes member).2
  have power : 33 ^ (saltCodes salt).length ≤ 33 ^ 10 := Nat.pow_le_pow_right (by decide) length
  omega

/-- Salts of ten digits have different hashes. -/
theorem djb2_decimal_inj (short : salt.toNat < 10 ^ 10) (short' : salt'.toNat < 10 ^ 10) :
    djb2 char (decimal salt) = djb2 char (decimal salt') ↔ salt = salt' := by
  have ascii : ∀ salt : BitVec 64, ∀ c ∈ decimal salt, c.toNat < 128 := by
    intro salt c member
    have code : c.toNat ∈ saltCodes salt := map_decimal salt ▸ List.mem_map_of_mem member
    have digit := mem_saltCodes code
    omega
  refine ⟨fun same => ?_, congrArg fun salt => djb2 char (decimal salt)⟩
  rw [djb2_ascii (ascii salt), djb2_ascii (ascii salt'), map_decimal, map_decimal] at same
  have values := congrArg BitVec.toNat same
  simp only [BitVec.natCast_eq_ofNat, BitVec.toNat_ofNat] at values
  rw [Nat.mod_eq_of_lt (saltHash_lt short), Nat.mod_eq_of_lt (saltHash_lt short')] at values
  have window : ∀ salt : BitVec 64, ∀ x ∈ saltCodes salt, 48 ≤ x ∧ x < 48 + 33 := by
    intro salt x member
    have digit := mem_saltCodes member
    omega
  exact saltCodes_injective
    (hornerHash_injective (by decide) (by decide) (window salt) (window salt') values)

end Salts

/-! ## The hashes of a key -/

namespace SignalSchemaKey

variable {char : CharSignedness} {clientName serializedSchema clientName' serializedSchema' :
  List UInt8} {m n : Nat}

theorem replaced_succ : replaced char clientName serializedSchema (n + 1) =
    (replaced char clientName serializedSchema n).generateReplacementHash char :=
  Function.iterate_succ_apply' ..

/-- What the members are after some replacements. -/
theorem replaced_eq : replaced char clientName serializedSchema n =
    ({ clientName, serializedSchema, salt := BitVec.ofNat 64 n } : SignalSchemaKey).computeHash
      char := by
  induction n with
  | zero => rfl
  | succ n ih =>
      rw [replaced_succ, ih]
      simp only [generateReplacementHash, computeHash, BitVec.ofNat_add]
      rfl

/-- The hash of a key goes on from that of its salt. -/
theorem replaced_hash : (replaced char clientName serializedSchema n).hash =
    hornerHash 33 (djb2 char (decimal (BitVec.ofNat 64 n)))
      ((clientName ++ serializedSchema).map (charWord char)) := by
  rw [replaced_eq, computeHash, List.append_assoc, djb2_append]

theorem ofNat_inj_of_short (hm : m < 10 ^ 10) (hn : n < 10 ^ 10) :
    BitVec.ofNat 64 m = BitVec.ofNat 64 n ↔ m = n := by
  rw [← BitVec.toNat_inj, BitVec.toNat_ofNat, BitVec.toNat_ofNat, Nat.mod_eq_of_lt (by omega),
    Nat.mod_eq_of_lt (by omega)]

theorem djb2_salt_inj (hm : m < 10 ^ 10) (hn : n < 10 ^ 10) :
    djb2 char (decimal (BitVec.ofNat 64 m)) = djb2 char (decimal (BitVec.ofNat 64 n)) ↔
      m = n := by
  have value : ∀ k < 10 ^ 10, (BitVec.ofNat 64 k).toNat < 10 ^ 10 := by
    intro k short
    rw [BitVec.toNat_ofNat, Nat.mod_eq_of_lt (by omega)]
    exact short
  rw [djb2_decimal_inj (value m hm) (value n hn), ofNat_inj_of_short hm hn]

/-- The first hashes of one key are distinct. -/
theorem replaced_hash_inj (hm : m < 10 ^ 10) (hn : n < 10 ^ 10) :
    (replaced char clientName serializedSchema m).hash =
      (replaced char clientName serializedSchema n).hash ↔ m = n := by
  rw [replaced_hash, replaced_hash, hornerHash_seed_inj isUnit_base, djb2_salt_inj hm hn]

/-- As many replacements as there are hashes taken lead to a free one. -/
theorem replaced_hash_escapes (char : CharSignedness) (clientName serializedSchema : List UInt8)
    (taken : Finset (BitVec 64)) (few : taken.card < 10 ^ 10) :
    ∃ n ≤ taken.card, (replaced char clientName serializedSchema n).hash ∉ taken ∧
      ∀ m < n, (replaced char clientName serializedSchema m).hash ∈ taken := by
  have free : ∃ n, n ≤ taken.card ∧ (replaced char clientName serializedSchema n).hash ∉ taken := by
    by_contra allTaken
    push Not at allTaken
    -- One more hash than there is room for.
    have image : (Finset.range (taken.card + 1)).card ≤ taken.card := by
      apply Finset.card_le_card_of_injOn fun n => (replaced char clientName serializedSchema n).hash
      · intro n member
        exact allTaken n (Nat.le_of_lt_succ (Finset.mem_range.mp member))
      · intro m hm n hn same
        have mSmall := Finset.mem_range.mp hm
        have nSmall := Finset.mem_range.mp hn
        exact (replaced_hash_inj (by omega) (by omega)).mp same
    rw [Finset.card_range] at image
    omega
  classical
  refine ⟨Nat.find free, (Nat.find_spec free).1, (Nat.find_spec free).2, fun m before => ?_⟩
  by_contra isFree
  exact Nat.find_min free before ⟨(before.le.trans (Nat.find_spec free).1), isFree⟩

/-- With the first hash of the key taken. -/
theorem replaced_hash_escapes_first :
    ∃ n ≤ ({(new .signed [97] [98]).hash} : Finset (BitVec 64)).card,
      (replaced .signed [97] [98] n).hash ∉ ({(new .signed [97] [98]).hash} : Finset (BitVec 64)) ∧
      ∀ m < n, (replaced .signed [97] [98] m).hash ∈
        ({(new .signed [97] [98]).hash} : Finset (BitVec 64)) :=
  replaced_hash_escapes .signed [97] [98] {(new .signed [97] [98]).hash} (by simp)

/-- Keys whose texts have one length collide at every salt if they collide at one, and those
that do collide at equal salts only. -/
theorem replaced_hash_collisions (char : CharSignedness)
    (length : (clientName ++ serializedSchema).length =
      (clientName' ++ serializedSchema').length) :
    (∀ m n, (replaced char clientName serializedSchema m).hash =
          (replaced char clientName' serializedSchema' m).hash ↔
        (replaced char clientName serializedSchema n).hash =
          (replaced char clientName' serializedSchema' n).hash) ∧
      ((new char clientName serializedSchema).hash = (new char clientName' serializedSchema').hash →
        ∀ m < 10 ^ 10, ∀ n < 10 ^ 10,
          (replaced char clientName serializedSchema m).hash =
            (replaced char clientName' serializedSchema' n).hash ↔ m = n) := by
  have words : ((clientName ++ serializedSchema).map (charWord char)).length =
      ((clientName' ++ serializedSchema').map (charWord char)).length := by
    rw [List.length_map, List.length_map, length]
  have everySalt : ∀ m n, (replaced char clientName serializedSchema m).hash =
      (replaced char clientName' serializedSchema' m).hash ↔
        (replaced char clientName serializedSchema n).hash =
          (replaced char clientName' serializedSchema' n).hash := by
    intro m n
    rw [replaced_hash, replaced_hash, replaced_hash, replaced_hash]
    exact hornerHash_congr_seed words
  refine ⟨everySalt, fun collide m hm n hn => ?_⟩
  have atM := (everySalt m 0).mpr collide
  rw [atM]
  exact replaced_hash_inj hm hn

/-- A client name and a schema that are cut at another place. -/
theorem replaced_hash_collisions_cut :
    (∀ m n, (replaced .signed [97, 98] [99] m).hash = (replaced .signed [97] [98, 99] m).hash ↔
        (replaced .signed [97, 98] [99] n).hash = (replaced .signed [97] [98, 99] n).hash) ∧
      ((new .signed [97, 98] [99]).hash = (new .signed [97] [98, 99]).hash →
        ∀ m < 10 ^ 10, ∀ n < 10 ^ 10,
          (replaced .signed [97, 98] [99] m).hash = (replaced .signed [97] [98, 99] n).hash ↔
            m = n) :=
  replaced_hash_collisions .signed rfl

end SignalSchemaKey

end SpotSdk.Client
