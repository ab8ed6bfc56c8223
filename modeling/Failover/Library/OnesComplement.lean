import Failover.Library.Bytes
import Mathlib.Algebra.BigOperators.Group.List.Basic

/-!
# The 16-bit one's-complement checksum

The checksum of a byte string is the complement of the end-around-carry sum of
its big-endian 16-bit words. All reasoning goes through the plain sum of the
words: the folded sum agrees with it modulo 65535, and it is zero only if every
word is zero, which separates the two representations of zero.
-/

namespace Failover.Library

set_option autoImplicit false

/-- An odd last byte is the high byte of a word whose low byte is zero. -/
def words : List UInt8 → List Nat
  | [] => []
  | [high] => [high.toNat * 256]
  | high :: low :: rest => (high.toNat * 256 + low.toNat) :: words rest

def addWord (left right : Nat) : Nat :=
  if left + right < 65536 then left + right else left + right - 65535

def foldWords (values : List Nat) : Nat := values.foldl addWord 0

def wordSum (bytes : List UInt8) : Nat := (words bytes).sum

/-- The bytes that have been added so far. -/
structure Checksum where
  added : List UInt8

namespace Checksum

def new : Checksum := ⟨[]⟩

def addBytes (check : Checksum) (bytes : List UInt8) : Checksum :=
  ⟨check.added ++ bytes⟩

def checksum (check : Checksum) : List UInt8 :=
  toBytes 2 (65535 - foldWords (words check.added))

end Checksum

theorem words_lt (bytes : List UInt8) : ∀ word ∈ words bytes, word < 65536 := by
  induction bytes using words.induct with
  | case1 => simp [words]
  | case2 high =>
      have bounded := high.toNat_lt
      simp only [words, List.mem_singleton, forall_eq]
      omega
  | case3 high low rest ih =>
      have highBound := high.toNat_lt
      have lowBound := low.toNat_lt
      intro word member
      simp only [words, List.mem_cons] at member
      rcases member with rfl | member
      · omega
      · exact ih word member

theorem word_sum_append {left : List UInt8} (even : left.length % 2 = 0)
    (right : List UInt8) : wordSum (left ++ right) = wordSum left + wordSum right := by
  induction left using words.induct with
  | case1 => simp [wordSum, words]
  | case2 high => simp at even
  | case3 high low rest ih =>
      have restEven : rest.length % 2 = 0 := by
        simp only [List.length_cons] at even
        omega
      have tail := ih restEven
      simp only [wordSum, List.cons_append, words, List.sum_cons] at tail ⊢
      omega

/-- The folded sum keeps the residue modulo 65535 and never turns a nonzero sum
into zero. -/
theorem fold_add_word_spec (values : List Nat) (start : Nat) (startBound : start < 65536)
    (bounded : ∀ value ∈ values, value < 65536) :
    values.foldl addWord start < 65536 ∧
      values.foldl addWord start % 65535 = (start + values.sum) % 65535 ∧
      (values.foldl addWord start = 0 ↔ start + values.sum = 0) := by
  induction values generalizing start with
  | nil => simpa using startBound
  | cons value rest ih =>
      have valueBound := bounded value (by simp)
      have nextBound : addWord start value < 65536 := by
        unfold addWord
        split <;> omega
      have nextResidue : addWord start value % 65535 = (start + value) % 65535 := by
        unfold addWord
        split <;> omega
      have nextZero : addWord start value = 0 ↔ start + value = 0 := by
        unfold addWord
        split <;> omega
      obtain ⟨bound, residue, zero⟩ := ih (addWord start value) nextBound
        (fun item member => bounded item (by simp [member]))
      refine ⟨bound, ?_, ?_⟩
      · rw [List.foldl_cons, residue, Nat.add_mod, nextResidue, ← Nat.add_mod,
          List.sum_cons, Nat.add_assoc]
      · rw [List.foldl_cons, zero, List.sum_cons]
        omega

theorem fold_words_spec (bytes : List UInt8) :
    foldWords (words bytes) < 65536 ∧
      foldWords (words bytes) % 65535 = wordSum bytes % 65535 ∧
      (foldWords (words bytes) = 0 ↔ wordSum bytes = 0) := by
  have spec := fold_add_word_spec (words bytes) 0 (by decide) (words_lt bytes)
  simpa only [foldWords, wordSum, Nat.zero_add] using spec

theorem to_bytes_two_eq_zero_iff (value : Nat) (bound : value < 65536) :
    toBytes 2 value = [0, 0] ↔ value = 0 := by
  constructor
  · intro zero
    have decoded := congrArg ofBytes zero
    rw [of_bytes_to_bytes, Nat.mod_eq_of_lt (by simpa using bound)] at decoded
    exact decoded
  · rintro rfl
    rfl

theorem checksum_eq_zero_iff (check : Checksum) :
    check.checksum = [0, 0] ↔
      wordSum check.added % 65535 = 0 ∧ wordSum check.added ≠ 0 := by
  obtain ⟨bound, residue, zero⟩ := fold_words_spec check.added
  rw [Checksum.checksum, to_bytes_two_eq_zero_iff _ (by omega)]
  omega

theorem word_sum_checksum (check : Checksum) :
    wordSum check.checksum = 65535 - foldWords (words check.added) := by
  have decoded := of_bytes_to_bytes 2 (65535 - foldWords (words check.added))
  rw [Nat.mod_eq_of_lt (by omega)] at decoded
  simpa [Checksum.checksum, toBytes, ofBytes, wordSum, words] using decoded

@[simp] theorem checksum_length (check : Checksum) : check.checksum.length = 2 := by
  simp [Checksum.checksum]

/-- Writing the checksum of a string over a zero word of that string makes the
string verify. -/
theorem written_checksum_verifies (before rest : List UInt8)
    (even : before.length % 2 = 0) :
    (Checksum.mk (before ++ ((Checksum.mk (before ++ ([0, 0] ++ rest))).checksum ++ rest))).checksum =
      [0, 0] := by
  let blank := Checksum.mk (before ++ ([0, 0] ++ rest))
  have blankSum : wordSum blank.added = wordSum before + wordSum rest := by
    simp only [blank]
    rw [word_sum_append even, word_sum_append (by rfl)]
    simp [wordSum, words]
  have writtenSum : wordSum (before ++ (blank.checksum ++ rest)) =
      wordSum blank.added + (65535 - foldWords (words blank.added)) := by
    rw [word_sum_append even, word_sum_append (by simp), word_sum_checksum, blankSum]
    omega
  obtain ⟨bound, residue, zero⟩ := fold_words_spec blank.added
  rw [checksum_eq_zero_iff]
  change wordSum (before ++ (blank.checksum ++ rest)) % 65535 = 0 ∧
    wordSum (before ++ (blank.checksum ++ rest)) ≠ 0
  rw [writtenSum]
  omega

/-- The aligned word of this index; an odd last byte counts as in `words`. -/
def wordAt (bytes : List UInt8) (index : Nat) : Nat :=
  (bytes.getD (2 * index) 0).toNat * 256 + (bytes.getD (2 * index + 1) 0).toNat

/-- Two strings of one length that differ in one aligned word, and not by the two
representations of zero. -/
structure OneWordChanged (bytes changed : List UInt8) (index : Nat) : Prop where
  length : changed.length = bytes.length
  elsewhere : ∀ i, i / 2 ≠ index → changed.getD i 0 = bytes.getD i 0
  differs : changed ≠ bytes
  cleared : ¬ (wordAt bytes index = 0xFFFF ∧ wordAt changed index = 0)
  filled : ¬ (wordAt bytes index = 0 ∧ wordAt changed index = 0xFFFF)

theorem word_at_lt (bytes : List UInt8) (index : Nat) : wordAt bytes index < 65536 := by
  have high := (bytes.getD (2 * index) 0).toNat_lt
  have low := (bytes.getD (2 * index + 1) 0).toNat_lt
  unfold wordAt
  omega

theorem word_at_succ (first second : UInt8) (rest : List UInt8) (index : Nat) :
    wordAt (first :: second :: rest) (index + 1) = wordAt rest index := by
  have shift : 2 * (index + 1) = 2 * index + 1 + 1 := by omega
  rw [wordAt, wordAt, shift]
  simp only [List.getD_cons_succ]

theorem eq_of_get_d {left right : List UInt8} (length : left.length = right.length)
    (same : ∀ i, left.getD i 0 = right.getD i 0) : left = right := by
  apply List.ext_getElem length
  intro i leftBound rightBound
  simpa [List.getD_eq_getElem?_getD, leftBound, rightBound] using same i

theorem word_sum_change {bytes changed : List UInt8} {index : Nat}
    (length : changed.length = bytes.length)
    (elsewhere : ∀ i, i / 2 ≠ index → changed.getD i 0 = bytes.getD i 0) :
    wordSum changed + wordAt bytes index = wordSum bytes + wordAt changed index := by
  induction bytes using words.induct generalizing changed index with
  | case1 =>
      rw [List.length_eq_zero_iff.mp length]
  | case2 byte =>
      rcases List.length_eq_one_iff.mp length with ⟨other, rfl⟩
      cases index with
      | zero => simp [wordSum, words, wordAt, Nat.add_comm]
      | succ index =>
          have same := elsewhere 0 (by omega)
          simp only [List.getD_cons_zero] at same
          rw [same]
  | case3 high low rest ih =>
      rcases changed with _ | ⟨otherHigh, _ | ⟨otherLow, otherRest⟩⟩
      · simp at length
      · simp at length
      · have restLength : otherRest.length = rest.length := by simpa using length
        have sum (first second : UInt8) (later : List UInt8) :
            wordSum (first :: second :: later) =
              first.toNat * 256 + second.toNat + wordSum later := by
          simp [wordSum, words]
        rw [sum, sum]
        cases index with
        | zero =>
            have same : otherRest = rest := by
              apply eq_of_get_d restLength
              intro i
              have byte := elsewhere (i + 2) (by omega)
              simpa using byte
            simp only [same, wordAt, Nat.mul_zero, Nat.zero_add, List.getD_cons_zero,
              List.getD_cons_succ]
            omega
        | succ index =>
            have firstByte := elsewhere 0 (by omega)
            have secondByte := elsewhere 1 (by omega)
            simp only [List.getD_cons_zero, List.getD_cons_succ] at firstByte secondByte
            have later := @ih otherRest index restLength (by
              intro i other
              have byte := elsewhere (i + 2) (by omega)
              simpa using byte)
            rw [word_at_succ, word_at_succ, firstByte, secondByte]
            omega

theorem OneWordChanged.word_ne {bytes changed : List UInt8} {index : Nat}
    (change : OneWordChanged bytes changed index) : wordAt changed index ≠ wordAt bytes index := by
  intro same
  apply change.differs
  apply eq_of_get_d change.length
  intro i
  by_cases inside : i / 2 = index
  · have firstBound := (changed.getD (2 * index) 0).toNat_lt
    have firstBound' := (bytes.getD (2 * index) 0).toNat_lt
    have secondBound := (changed.getD (2 * index + 1) 0).toNat_lt
    have secondBound' := (bytes.getD (2 * index + 1) 0).toNat_lt
    unfold wordAt at same
    rcases (show i = 2 * index ∨ i = 2 * index + 1 by omega) with rfl | rfl
    · exact UInt8.toNat_inj.mp (by omega)
    · exact UInt8.toNat_inj.mp (by omega)
  · exact change.elsewhere i inside

/-- A string that verifies no longer does once a word of it has changed. -/
theorem changed_word_fails {before bytes changed : List UInt8} {index : Nat}
    (change : OneWordChanged bytes changed index) (beforeEven : before.length % 2 = 0)
    (bytesEven : bytes.length % 2 = 0) (after : List UInt8)
    (verified : (Checksum.mk (before ++ bytes ++ after)).checksum = [0, 0]) :
    (Checksum.mk (before ++ changed ++ after)).checksum ≠ [0, 0] := by
  intro still
  have sums := word_sum_change change.length change.elsewhere
  have different := change.word_ne
  have cleared := change.cleared
  have filled := change.filled
  have bound := word_at_lt bytes index
  have changedBound := word_at_lt changed index
  have total (middle : List UInt8) (length : middle.length = bytes.length) :
      wordSum (before ++ middle ++ after) = wordSum before + wordSum middle + wordSum after := by
    rw [word_sum_append (by rw [List.length_append, length]; omega), word_sum_append beforeEven]
  have old := ((checksum_eq_zero_iff _).mp verified).1
  have new := ((checksum_eq_zero_iff _).mp still).1
  rw [total bytes rfl] at old
  rw [total changed change.length] at new
  omega

theorem complement_of_sum {fold sum check : Nat} (foldBound : fold < 65536)
    (checkBound : check < 65535) (residue : fold % 65535 = sum % 65535) (positive : fold ≠ 0)
    (total : (sum + check) % 65535 = 0) : 65535 - fold = check := by
  omega

/-- A word that makes a string verify is the checksum of the string with a zero word in
its place, or the other representation of zero. -/
theorem checksum_unique {before after : List UInt8} {check0 check1 : UInt8}
    (even : before.length % 2 = 0) (nonzero : wordSum before ≠ 0)
    (verified : (Checksum.mk (before ++ ([check0, check1] ++ after))).checksum = [0, 0])
    (full : ¬ (check0 = 0xFF ∧ check1 = 0xFF)) :
    (Checksum.mk (before ++ ([0, 0] ++ after))).checksum = [check0, check1] := by
  let blank := Checksum.mk (before ++ ([0, 0] ++ after))
  rcases fold_words_spec blank.added with ⟨foldBound, residue, zero⟩
  have blankSum : wordSum blank.added = wordSum before + wordSum after := by
    simp only [blank]
    rw [word_sum_append even, word_sum_append (by rfl)]
    simp [wordSum, words]
  have sum := ((checksum_eq_zero_iff _).mp verified).1
  rw [word_sum_append even, word_sum_append (by simp)] at sum
  have word : wordSum [check0, check1] = check0.toNat * 256 + check1.toNat := by
    simp [wordSum, words]
  have bound0 := check0.toNat_lt
  have bound1 := check1.toNat_lt
  have notFull : check0.toNat * 256 + check1.toNat ≠ 65535 := by
    intro all
    apply full
    constructor
    · exact UInt8.toNat_inj.mp (show check0.toNat = 255 by omega)
    · exact UInt8.toNat_inj.mp (show check1.toNat = 255 by omega)
  have value : 65535 - foldWords (words blank.added) = ofBytes [check0, check1] := by
    have bytes : ofBytes [check0, check1] = check0.toNat * 256 + check1.toNat := by
      simp [ofBytes]
    have positive : foldWords (words blank.added) ≠ 0 := by
      intro empty
      have vanished := zero.mp empty
      omega
    have total : (wordSum blank.added + (check0.toNat * 256 + check1.toNat)) % 65535 = 0 := by
      rw [blankSum, ← word, Nat.add_right_comm, Nat.add_assoc]
      exact sum
    rw [bytes]
    exact complement_of_sum foldBound (by omega) residue positive total
  change blank.checksum = [check0, check1]
  rw [Checksum.checksum, value]
  exact to_bytes_of_bytes [check0, check1]

end Failover.Library
