/-!
# Bytes/BigEndian — fixed-width numbers, most significant byte first

`bigEndian w n` is the last `w` base-256 digits of `n`, and `ofBigEndian` is the number that a byte
string spells.  The two undo each other: `ofBigEndian_bigEndian` reads `n` back modulo `capacity w`,
and `bigEndian_ofBigEndian` writes the same bytes again.
-/

namespace DebugWire

/-- A byte string. -/
abbrev Bytes := List UInt8

/-- The last `w` base-256 digits of `n`, most significant first. -/
def bigEndian : Nat → Nat → Bytes
  | 0, _ => []
  | w + 1, n => bigEndian w (n / 256) ++ [UInt8.ofNat n]

/-- The number whose base-256 digits are `bs`. -/
def ofBigEndian (bs : Bytes) : Nat :=
  bs.foldl (fun n b => 256 * n + b.toNat) 0

/-- How many numbers `w` digits can write: `256 ^ w`. -/
def capacity : Nat → Nat
  | 0 => 1
  | w + 1 => 256 * capacity w

@[simp] theorem length_bigEndian : ∀ w n : Nat, (bigEndian w n).length = w
  | 0, _ => rfl
  | w + 1, n => by simp [bigEndian, length_bigEndian w]

@[simp] theorem ofBigEndian_nil : ofBigEndian [] = 0 := rfl

theorem ofBigEndian_concat (bs : Bytes) (b : UInt8) :
    ofBigEndian (bs ++ [b]) = 256 * ofBigEndian bs + b.toNat := by
  simp [ofBigEndian]

/-- **A written number reads back**, cut to its width. -/
theorem ofBigEndian_bigEndian : ∀ w n : Nat, ofBigEndian (bigEndian w n) = n % capacity w
  | 0, n => by simp [bigEndian, capacity, Nat.mod_one]
  | w + 1, n => by
      rw [bigEndian, ofBigEndian_concat, ofBigEndian_bigEndian w, capacity, Nat.mod_mul,
        UInt8.toNat_ofNat']
      omega

/-- A nonempty byte string ends in a byte. -/
theorem exists_append_last {bs : Bytes} {w : Nat} (h : bs.length = w + 1) :
    ∃ front b, bs = front ++ [b] ∧ front.length = w := by
  have hne : bs ≠ [] := by rintro rfl; simp at h
  exact ⟨bs.dropLast, bs.getLast hne, (List.dropLast_concat_getLast hne).symm, by simp [h]⟩

/-- A byte string of length `w` spells a number below `capacity w`. -/
theorem ofBigEndian_lt {w : Nat} {bs : Bytes} (h : bs.length = w) :
    ofBigEndian bs < capacity w := by
  induction w generalizing bs with
  | zero => simp [List.eq_nil_of_length_eq_zero h, capacity]
  | succ w ih =>
    obtain ⟨front, b, rfl, hlen⟩ := exists_append_last h
    have hfront := ih hlen
    have hb := b.toNat_lt
    rw [ofBigEndian_concat, capacity]
    omega

/-- **The digits of a spelled number are the bytes that spell it.** -/
theorem bigEndian_ofBigEndian {w : Nat} {bs : Bytes} (h : bs.length = w) :
    bigEndian w (ofBigEndian bs) = bs := by
  induction w generalizing bs with
  | zero => simp [List.eq_nil_of_length_eq_zero h, bigEndian]
  | succ w ih =>
    obtain ⟨front, b, rfl, hlen⟩ := exists_append_last h
    have hb := b.toNat_lt
    have hdiv : (256 * ofBigEndian front + b.toNat) / 256 = ofBigEndian front := by omega
    have hlast : UInt8.ofNat (256 * ofBigEndian front + b.toNat) = b := by
      apply UInt8.toNat_inj.mp
      rw [UInt8.toNat_ofNat']
      omega
    rw [ofBigEndian_concat, bigEndian, hdiv, ih hlen, hlast]

end DebugWire
