import DebugWire.Attempt
import DebugWire.Bytes.Utf8
import Mathlib.Algebra.Group.Nat.Defs

/-!
# Proofs/Bytes/Utf8 — a text and its bytes

A character is one byte, or a leading byte and up to three bytes of six bits each (`trail`).  The
leading byte says how many follow and bounds the first of them (`lead_three`, `lead_four`), and the
decoder puts the six bits of each behind those that it holds (`scan_trail`).  So what `encode`
writes is read as the same text (`decode_encode`).  Conversely, whatever is read was written so:
bytes that complete a character are the last ones of some number (`scan_pending`), and the bounds
leave only the shortest form of a character (`scan_front`, `decode_eq_ok_iff`).
-/

namespace DebugWire.Utf8

/-! ## One byte -/

theorem scan_whole {b : UInt8} (h : Lead.of b.toNat = .whole) (after : Nat) (rest : Bytes) :
    scan after none (b :: rest) = (Char.ofNat b.toNat :: ·) <$> scan (after + 1) none rest := by
  rw [scan, h]

theorem scan_opens {b : UInt8} {p : Pending} (h : Lead.of b.toNat = .opens p) (after : Nat)
    (rest : Bytes) : scan after none (b :: rest) = scan after (some p) rest := by
  rw [scan, h]

/-- The last byte of a character. -/
theorem scan_last {seen low high bits : Nat} {b : UInt8} (h : low ≤ b.toNat ∧ b.toNat ≤ high)
    (after : Nat) (rest : Bytes) :
    scan after (some ⟨seen, 0, low, high, bits⟩) (b :: rest) =
      (Char.ofNat (bits * 64 + b.toNat % 64) :: ·) <$> scan (after + seen + 1) none rest := by
  rw [scan, if_pos h]

/-- A byte in the middle of a character. -/
theorem scan_more {seen owed low high bits : Nat} {b : UInt8}
    (h : low ≤ b.toNat ∧ b.toNat ≤ high) (after : Nat) (rest : Bytes) :
    scan after (some ⟨seen, owed + 1, low, high, bits⟩) (b :: rest) =
      scan after (some ⟨seen + 1, owed, 0x80, 0xBF, bits * 64 + b.toNat % 64⟩) rest := by
  rw [scan, if_pos h]

/-! ## The bytes behind the leading one -/

/-- The byte that carries the `k`-th six bits of a number, counted from its end. -/
def tailByte (k n : Nat) : UInt8 := UInt8.ofNat (n / 64 ^ k % 64 + 128)

/-- The last `k` bytes of a character. -/
def trail : Nat → Nat → Bytes
  | 0, _ => []
  | k + 1, n => tailByte k n :: trail k n

@[simp] theorem length_trail : ∀ k n : Nat, (trail k n).length = k
  | 0, _ => rfl
  | k + 1, n => congrArg (· + 1) (length_trail k n)

theorem toNat_tailByte (k n : Nat) : (tailByte k n).toNat = n / 64 ^ k % 64 + 128 := by
  rw [tailByte, UInt8.toNat_ofNat']
  omega

/-- The bits of a number in front of some place, and the six behind it. -/
theorem bits_append (k n : Nat) :
    n / 64 ^ (k + 1) * 64 + (tailByte k n).toNat % 64 = n / 64 ^ k := by
  have hdiv : n / 64 ^ (k + 1) = n / 64 ^ k / 64 := by rw [Nat.pow_succ, Nat.div_div_eq_div_mul]
  rw [toNat_tailByte, hdiv]
  omega

/-- **A character is completed** by its last bytes, if the first of them is in bounds. -/
theorem scan_trail (k n after seen low high : Nat) (rest : Bytes)
    (h : low ≤ (tailByte k n).toNat ∧ (tailByte k n).toNat ≤ high) :
    scan after (some ⟨seen, k, low, high, n / 64 ^ (k + 1)⟩) (trail (k + 1) n ++ rest) =
      (Char.ofNat n :: ·) <$> scan (after + seen + k + 1) none rest := by
  induction k generalizing seen low high with
  | zero =>
    rw [trail, trail, List.singleton_append, scan_last h, bits_append, Nat.pow_zero, Nat.div_one]
  | succ k ih =>
    have hnext : 0x80 ≤ (tailByte k n).toNat ∧ (tailByte k n).toNat ≤ 0xBF := by
      rw [toNat_tailByte]
      omega
    rw [trail, List.cons_append, scan_more h, bits_append, ih _ _ _ hnext]
    congr 2
    omega

/-! ## Leading bytes -/

theorem lead_two {b : Nat} (hlow : 0xC2 ≤ b) (hhigh : b < 0xE0) :
    Lead.of b = .opens ⟨1, 0, 0x80, 0xBF, b - 0xC0⟩ := by
  rw [Lead.of, if_neg (by omega), if_neg (by omega), if_pos hhigh]

/-- The first two of three bytes spell no overlong form and no surrogate. -/
theorem lead_three {b : Nat} (hlow : 0xE0 ≤ b) (hhigh : b < 0xF0) :
    Lead.of b = .opens ⟨1, 1, if b = 0xE0 then 0xA0 else 0x80, if b = 0xED then 0x9F else 0xBF,
      b - 0xE0⟩ := by
  rw [Lead.of, if_neg (by omega), if_neg (by omega), if_neg (by omega)]
  by_cases hfirst : b = 0xE0
  · subst hfirst
    rfl
  by_cases hsurrogate : b = 0xED
  · subst hsurrogate
    rfl
  · rw [if_neg hfirst, if_neg hsurrogate, if_pos hhigh, if_neg hfirst, if_neg hsurrogate]

/-- The first two of four bytes spell no overlong form and nothing above U+10FFFF. -/
theorem lead_four {b : Nat} (hlow : 0xF0 ≤ b) (hhigh : b ≤ 0xF4) :
    Lead.of b = .opens ⟨1, 2, if b = 0xF0 then 0x90 else 0x80, if b = 0xF4 then 0x8F else 0xBF,
      b - 0xF0⟩ := by
  rw [Lead.of, if_neg (by omega), if_neg (by omega), if_neg (by omega), if_neg (by omega),
    if_neg (by omega), if_neg (by omega)]
  by_cases hfirst : b = 0xF0
  · subst hfirst
    rfl
  by_cases hlast : b = 0xF4
  · subst hlast
    rfl
  · rw [if_neg hfirst, if_pos (by omega), if_neg hfirst, if_neg hlast]

/-! ## A character -/

/-- No character is a surrogate, or above U+10FFFF. -/
theorem toNat_char (c : Char) : c.toNat < 0xD800 ∨ 0xDFFF < c.toNat ∧ c.toNat < 0x110000 := c.valid

/-- What a character is written as, by its size. -/
theorem bytes_one {c : Char} (h : c.toNat ≤ 0x7F) :
    String.utf8EncodeChar c = [UInt8.ofNat c.toNat] := if_pos h

theorem bytes_two {c : Char} (hlow : ¬ c.toNat ≤ 0x7F) (hhigh : c.toNat ≤ 0x7FF) :
    String.utf8EncodeChar c = UInt8.ofNat (c.toNat / 64 % 32 + 192) :: trail 1 c.toNat := by
  refine (if_neg hlow).trans ((if_pos hhigh).trans ?_)
  simp [trail, tailByte]

theorem bytes_three {c : Char} (hlow : ¬ c.toNat ≤ 0x7FF) (hhigh : c.toNat ≤ 0xFFFF) :
    String.utf8EncodeChar c = UInt8.ofNat (c.toNat / 4096 % 16 + 224) :: trail 2 c.toNat := by
  have hone : ¬ c.toNat ≤ 0x7F := by omega
  refine (if_neg hone).trans ((if_neg hlow).trans ((if_pos hhigh).trans ?_))
  simp [trail, tailByte]

theorem bytes_four {c : Char} (hlow : ¬ c.toNat ≤ 0xFFFF) :
    String.utf8EncodeChar c = UInt8.ofNat (c.toNat / 262144 % 8 + 240) :: trail 3 c.toNat := by
  have hone : ¬ c.toNat ≤ 0x7F := by omega
  have htwo : ¬ c.toNat ≤ 0x7FF := by omega
  refine (if_neg hone).trans ((if_neg htwo).trans ((if_neg hlow).trans ?_))
  simp [trail, tailByte]

/-- A character that begins with an ASCII byte is that byte. -/
theorem toNat_of_head {c : Char} {b : UInt8} {bs : Bytes} (h : String.utf8EncodeChar c = b :: bs)
    (hb : b.toNat < 0x80) : c.toNat = b.toNat := by
  by_cases hone : c.toNat ≤ 0x7F
  · rw [bytes_one hone] at h
    obtain ⟨rfl, -⟩ := List.cons.inj h
    rw [UInt8.toNat_ofNat']
    omega
  · have hlead : ∃ n, 0x80 ≤ n ∧ n < 0x100 ∧ b = UInt8.ofNat n := by
      by_cases htwo : c.toNat ≤ 0x7FF
      · rw [bytes_two hone htwo] at h
        exact ⟨_, by omega, by omega, (List.cons.inj h).1.symm⟩
      by_cases hthree : c.toNat ≤ 0xFFFF
      · rw [bytes_three htwo hthree] at h
        exact ⟨_, by omega, by omega, (List.cons.inj h).1.symm⟩
      · rw [bytes_four hthree] at h
        exact ⟨_, by omega, by omega, (List.cons.inj h).1.symm⟩
    obtain ⟨n, hlow, hhigh, rfl⟩ := hlead
    rw [UInt8.toNat_ofNat'] at hb
    omega

/-- The character is more than one byte: one that opens it, and those behind. -/
theorem scan_opened {c : Char} {k lead low high bits : Nat}
    (hbytes : String.utf8EncodeChar c = UInt8.ofNat lead :: trail (k + 1) c.toNat)
    (hlead : Lead.of lead = .opens ⟨1, k, low, high, bits⟩) (hlt : lead < 256)
    (hbits : bits = c.toNat / 64 ^ (k + 1))
    (hbounds : low ≤ c.toNat / 64 ^ k % 64 + 128 ∧ c.toNat / 64 ^ k % 64 + 128 ≤ high)
    (after : Nat) (rest : Bytes) :
    scan after none (String.utf8EncodeChar c ++ rest) =
      (c :: ·) <$> scan (after + (String.utf8EncodeChar c).length) none rest := by
  subst hbits
  have hopens : Lead.of (UInt8.ofNat lead).toNat =
      .opens ⟨1, k, low, high, c.toNat / 64 ^ (k + 1)⟩ := by
    rw [UInt8.toNat_ofNat', Nat.mod_eq_of_lt hlt, hlead]
  rw [← toNat_tailByte] at hbounds
  rw [hbytes, List.cons_append, scan_opens hopens, scan_trail _ _ _ _ _ _ _ hbounds,
    Char.ofNat_toNat, List.length_cons, length_trail]
  congr 2
  omega

/-- **A character is read back.** -/
theorem scan_char (c : Char) (after : Nat) (rest : Bytes) :
    scan after none (String.utf8EncodeChar c ++ rest) =
      (c :: ·) <$> scan (after + (String.utf8EncodeChar c).length) none rest := by
  have hvalid := toNat_char c
  by_cases hone : c.toNat ≤ 0x7F
  · have hbyte : (UInt8.ofNat c.toNat).toNat = c.toNat := by
      rw [UInt8.toNat_ofNat']
      omega
    have hwhole : Lead.of (UInt8.ofNat c.toNat).toNat = .whole := by
      rw [hbyte]
      exact if_pos (by omega)
    rw [bytes_one hone, List.singleton_append, scan_whole hwhole, hbyte, Char.ofNat_toNat]
    rfl
  by_cases htwo : c.toNat ≤ 0x7FF
  · exact scan_opened (bytes_two hone htwo) (lead_two (by omega) (by omega)) (by omega) (by omega)
      (by omega) after rest
  by_cases hthree : c.toNat ≤ 0xFFFF
  · refine scan_opened (bytes_three htwo hthree) (lead_three (by omega) (by omega)) (by omega)
      (by omega) ?_ after rest
    constructor <;> split <;> omega
  · refine scan_opened (bytes_four hthree) (lead_four (by omega) (by omega)) (by omega) (by omega)
      ?_ after rest
    constructor <;> split <;> omega

/-! ## Texts -/

theorem scan_chars (cs : List Char) (after : Nat) :
    scan after none (cs.flatMap String.utf8EncodeChar) = .ok cs := by
  induction cs generalizing after with
  | nil => rfl
  | cons c cs ih =>
    rw [List.flatMap_cons, scan_char, ih]
    rfl

/-- **A text that was written is read back.** -/
theorem decode_encode (s : String) : decode (encode s) = .ok s := by
  rw [decode, encode, scan_chars]
  exact congrArg Except.ok String.ofList_toList

/-! ## Bytes that are read -/

/-- A wrong byte inside a character, or none: the fault lies in front of the character. -/
theorem scan_fault {after : Nat} {p : Pending} {bs : Bytes}
    (h : ∀ b rest, bs = b :: rest → ¬(p.low ≤ b.toNat ∧ b.toNat ≤ p.high)) :
    ∃ fault, scan after (some p) bs = .error fault ∧ fault.after = after := by
  cases bs with
  | nil => exact ⟨.incomplete after, rfl, rfl⟩
  | cons b rest =>
    refine ⟨.invalid p.seen after, ?_, rfl⟩
    rw [scan, if_neg (h b rest rfl)]

/-- **What completes a character** are the last bytes of some number.  Other bytes are a fault, and
it lies in front of the character. -/
theorem scan_pending {k seen low high bits : Nat} (hlow : 0x80 ≤ low) (hhigh : high ≤ 0xBF)
    (after : Nat) (bs : Bytes) :
    (∃ fault, scan after (some ⟨seen, k, low, high, bits⟩) bs = .error fault ∧
      fault.after = after) ∨
    ∃ n tail, n / 64 ^ (k + 1) = bits ∧
      (low ≤ (tailByte k n).toNat ∧ (tailByte k n).toNat ≤ high) ∧
      bs = trail (k + 1) n ++ tail := by
  induction k generalizing seen low high bits bs with
  | zero =>
    by_cases hfits : ∃ b rest, bs = b :: rest ∧ low ≤ b.toNat ∧ b.toNat ≤ high
    · obtain ⟨b, rest, rfl, hb⟩ := hfits
      have htail : tailByte 0 (bits * 64 + b.toNat % 64) = b := by
        rw [← UInt8.toNat_inj, toNat_tailByte]
        omega
      refine Or.inr ⟨_, rest, by omega, htail.symm ▸ hb, ?_⟩
      rw [trail, trail, htail]
      rfl
    · exact Or.inl (scan_fault fun b rest hbs hb => hfits ⟨b, rest, hbs, hb⟩)
  | succ k ih =>
    by_cases hfits : ∃ b rest, bs = b :: rest ∧ low ≤ b.toNat ∧ b.toNat ≤ high
    · obtain ⟨b, rest, rfl, hb⟩ := hfits
      rw [scan_more hb]
      refine (ih (by omega) (by omega) rest).imp id ?_
      rintro ⟨n, tail, hbits, -, rfl⟩
      have htail : tailByte (k + 1) n = b := by
        rw [← UInt8.toNat_inj, toNat_tailByte, hbits]
        omega
      refine ⟨n, tail, ?_, htail.symm ▸ hb, ?_⟩
      · rw [Nat.pow_succ, ← Nat.div_div_eq_div_mul, hbits]
        omega
      · have htrail : trail (k + 1 + 1) n = b :: trail (k + 1) n := by rw [trail, htail]
        rw [htrail]
        rfl
    · exact Or.inl (scan_fault fun b rest hbs hb => hfits ⟨b, rest, hbs, hb⟩)

theorem lt_of_lead_whole {b : Nat} (h : Lead.of b = .whole) : b < 0x80 := by
  unfold Lead.of at h
  grind

/-- The bytes that open a character. -/
theorem lead_cases {b : Nat} {p : Pending} (h : Lead.of b = .opens p) :
    (0xC2 ≤ b ∧ b < 0xE0 ∧ p = ⟨1, 0, 0x80, 0xBF, b - 0xC0⟩) ∨
    (0xE0 ≤ b ∧ b < 0xF0 ∧ p = ⟨1, 1, if b = 0xE0 then 0xA0 else 0x80,
      if b = 0xED then 0x9F else 0xBF, b - 0xE0⟩) ∨
    0xF0 ≤ b ∧ b ≤ 0xF4 ∧ p = ⟨1, 2, if b = 0xF0 then 0x90 else 0x80,
      if b = 0xF4 then 0x8F else 0xBF, b - 0xF0⟩ := by
  have hlow : 0xC2 ≤ b := by
    refine Decidable.byContradiction fun hlt => ?_
    unfold Lead.of at h
    split at h
    · exact absurd h nofun
    · rw [if_pos (by omega)] at h
      exact absurd h nofun
  by_cases htwo : b < 0xE0
  · rw [lead_two hlow htwo] at h
    exact Or.inl ⟨hlow, htwo, (Lead.opens.inj h).symm⟩
  by_cases hthree : b < 0xF0
  · rw [lead_three (by omega) hthree] at h
    exact Or.inr (Or.inl ⟨by omega, hthree, (Lead.opens.inj h).symm⟩)
  by_cases hfour : b ≤ 0xF4
  · rw [lead_four (by omega) hfour] at h
    exact Or.inr (Or.inr ⟨by omega, hfour, (Lead.opens.inj h).symm⟩)
  · unfold Lead.of at h
    grind

theorem toNat_ofNat {n : Nat} (h : n.isValidChar) : (Char.ofNat n).toNat = n := by
  rw [Char.ofNat, dif_pos h]
  rfl

/-- The bytes of a character are told by the byte that opens it and those that complete it. -/
theorem bytes_of_scan {b : UInt8} {p : Pending} (hlead : Lead.of b.toNat = .opens p) {n : Nat}
    (hbits : n / 64 ^ (p.owed + 1) = p.bits)
    (hbounds : p.low ≤ (tailByte p.owed n).toNat ∧ (tailByte p.owed n).toNat ≤ p.high) :
    String.utf8EncodeChar (Char.ofNat n) = b :: trail (p.owed + 1) n := by
  rw [toNat_tailByte] at hbounds
  obtain ⟨hlow, hhigh, rfl⟩ | ⟨hlow, hhigh, rfl⟩ | ⟨hlow, hhigh, rfl⟩ := lead_cases hlead
  · dsimp only at *
    have hn : (Char.ofNat n).toNat = n := toNat_ofNat (by unfold Nat.isValidChar; omega)
    have hb : UInt8.ofNat (n / 64 % 32 + 192) = b := by
      rw [← UInt8.toNat_inj, UInt8.toNat_ofNat']
      omega
    rw [bytes_two (by omega) (by omega), hn, hb]
  · dsimp only at *
    have hvalid : 0x7FF < n ∧ n ≤ 0xFFFF ∧ n.isValidChar := by
      unfold Nat.isValidChar
      split at hbounds <;> split at hbounds <;> omega
    have hn := toNat_ofNat hvalid.2.2
    have hb : UInt8.ofNat (n / 4096 % 16 + 224) = b := by
      rw [← UInt8.toNat_inj, UInt8.toNat_ofNat']
      omega
    rw [bytes_three (by omega) (by omega), hn, hb]
  · dsimp only at *
    have hvalid : 0xFFFF < n ∧ n.isValidChar := by
      unfold Nat.isValidChar
      split at hbounds <;> split at hbounds <;> omega
    have hn := toNat_ofNat hvalid.2
    have hb : UInt8.ofNat (n / 262144 % 8 + 240) = b := by
      rw [← UInt8.toNat_inj, UInt8.toNat_ofNat']
      unfold Nat.isValidChar at hvalid
      omega
    rw [bytes_four (by omega), hn, hb]

/-- The byte behind an opening one is in bounds that no later byte may leave. -/
theorem bounds_of_lead {b : Nat} {p : Pending} (h : Lead.of b = .opens p) :
    0x80 ≤ p.low ∧ p.high ≤ 0xBF := by
  obtain ⟨-, -, rfl⟩ | ⟨-, -, rfl⟩ | ⟨-, -, rfl⟩ := lead_cases h <;> dsimp only <;>
    constructor <;> (try split) <;> omega

/-- **Bytes begin with a character**, or there are none, or the fault lies in front of them. -/
theorem scan_front (after : Nat) (bs : Bytes) :
    bs = [] ∨ (∃ fault, scan after none bs = .error fault ∧ fault.after = after) ∨
      ∃ c tail, bs = String.utf8EncodeChar c ++ tail := by
  cases bs with
  | nil => exact Or.inl rfl
  | cons b rest =>
    refine Or.inr ?_
    cases hlead : Lead.of b.toNat with
    | whole =>
      have hb := lt_of_lead_whole hlead
      have hchar : (Char.ofNat b.toNat).toNat = b.toNat :=
        toNat_ofNat (Or.inl (Nat.lt_trans hb (by decide)))
      refine Or.inr ⟨Char.ofNat b.toNat, rest, ?_⟩
      rw [bytes_one (by omega), hchar, UInt8.ofNat_toNat]
      rfl
    | opens p =>
      obtain ⟨hlow, hhigh⟩ := bounds_of_lead hlead
      rw [scan_opens hlead]
      refine (scan_pending hlow hhigh after rest).imp id ?_
      rintro ⟨n, tail, hbits, hbounds, rfl⟩
      refine ⟨Char.ofNat n, tail, ?_⟩
      rw [bytes_of_scan hlead hbits hbounds]
      rfl
    | refused =>
      refine Or.inl ⟨.invalid 1 after, ?_, rfl⟩
      rw [scan, hlead]

theorem eq_flatMap_of_scan {after : Nat} {bs : Bytes} {cs : List Char}
    (h : scan after none bs = .ok cs) : bs = cs.flatMap String.utf8EncodeChar := by
  induction hlength : bs.length using Nat.strongRecOn generalizing after bs cs with
  | ind length ih =>
    obtain rfl | ⟨fault, hfault, -⟩ | ⟨c, tail, rfl⟩ := scan_front after bs
    · obtain rfl : [] = cs := Except.ok.inj h
      rfl
    · exact absurd (hfault.symm.trans h) nofun
    · rw [scan_char] at h
      obtain ⟨cs', hcs', rfl⟩ := exists_of_map_eq_ok h
      have hpos := c.utf8Size_pos
      rw [List.length_append, String.length_utf8EncodeChar] at hlength
      rw [List.flatMap_cons, ← ih tail.length (by omega) hcs' rfl]

/-- **A text is read from the bytes that it is written as**, and from no others. -/
theorem decode_eq_ok_iff {bs : Bytes} {s : String} : decode bs = .ok s ↔ bs = encode s := by
  constructor
  · intro h
    obtain ⟨cs, hcs, rfl⟩ := exists_of_map_eq_ok h
    rw [encode, String.toList_ofList]
    exact eq_flatMap_of_scan hcs
  · rintro rfl
    exact decode_encode s

end DebugWire.Utf8
