import TemporalQuery.Text.Utf8

/-!
# Decoding what was encoded

`encodeUtf8` is the standard encoding. Decoding inverts it (`decodeUtf8_encodeUtf8`): the first byte of
each character announces just the bytes that follow it, and none of these is refused.
-/

namespace TemporalQuery.Text

def encodeUtf8 (cs : List Char) : List UInt8 := cs.flatMap String.utf8EncodeChar

/-- The byte is the first before so many more, holds the bits, and lets `second` come next. -/
def Announces (b : UInt8) (following bits second : Nat) : Prop :=
  ∃ lead, Utf8Lead.ofByte? b = some lead ∧ lead.following = following ∧ lead.bits = bits ∧
    lead.low ≤ second ∧ second ≤ lead.high

/-- The code point whose first bits are given, the bytes holding the others. -/
def completed (bits : Nat) (bytes : List UInt8) : Nat :=
  bytes.foldl (fun code b => code * 64 + (b.toNat - 0x80)) bits

theorem completed_cons (bits : Nat) (b : UInt8) (bytes : List UInt8) :
    completed bits (b :: bytes) = completed (bits * 64 + (b.toNat - 0x80)) bytes := List.foldl_cons ..

theorem continuation_tail {tail : List UInt8} (within : ∀ b ∈ tail, 0x80 ≤ b.toNat ∧ b.toNat ≤ 0xbf)
    (bits taken : Nat) (rest : List UInt8) :
    continuation tail.length 0x80 0xbf bits taken (tail ++ rest) = .ok (completed bits tail) := by
  induction tail generalizing bits taken with
  | nil => rfl
  | cons b tail ih =>
    rw [List.forall_mem_cons] at within
    rw [List.length_cons, List.cons_append, continuation, if_pos within.1, ih within.2, completed_cons]

/-- The second byte is apart from the others, as the first one bounds it. -/
theorem decodeFrom_announced {b c : UInt8} {tail : List UInt8} {bits v : Nat}
    (announced : Announces b (tail.length + 1) bits c.toNat)
    (within : ∀ d ∈ tail, 0x80 ≤ d.toNat ∧ d.toNat ≤ 0xbf) (code : completed bits (c :: tail) = v)
    (start : Nat) (rest : List UInt8) :
    decodeFrom start (b :: c :: (tail ++ rest)) =
      (decodeFrom (start + (tail.length + 1) + 1) rest).map (Char.ofNat v :: ·) := by
  obtain ⟨lead, found, following, rfl, second⟩ := announced
  have complete : continuation lead.following lead.low lead.high lead.bits 1 (c :: (tail ++ rest)) =
      .ok v := by
    rw [following, continuation, if_pos second, continuation_tail within, ← completed_cons, code]
  have behind : (c :: (tail ++ rest)).drop lead.following = rest := by
    rw [following, List.drop_succ_cons, List.drop_left]
  rw [← following, decodeFrom]
  simp only [found, complete, behind]

/-! ### The bytes of a code point -/

theorem toNat_tail (n : Nat) : (UInt8.ofNat (n % 64 + 128)).toNat = n % 64 + 128 := by
  rw [UInt8.toNat_ofNat']
  omega

theorem tail_within (n : Nat) :
    0x80 ≤ (UInt8.ofNat (n % 64 + 128)).toNat ∧ (UInt8.ofNat (n % 64 + 128)).toNat ≤ 0xbf := by
  rw [toNat_tail]
  omega

theorem completed_tail (bits n : Nat) (bytes : List UInt8) :
    completed bits (UInt8.ofNat (n % 64 + 128) :: bytes) = completed (bits * 64 + n % 64) bytes := by
  rw [completed_cons, toNat_tail, Nat.add_sub_cancel]

section

variable {v : Nat}

theorem announces_two (large : 127 < v) (small : v ≤ 2047) :
    Announces (UInt8.ofNat (v / 64 % 32 + 192)) 1 (v / 64) (v % 64 + 128) := by
  have byte : (UInt8.ofNat (v / 64 % 32 + 192)).toNat = v / 64 + 192 := by
    rw [UInt8.toNat_ofNat']
    omega
  simp only [Announces, Utf8Lead.ofByte?, byte]
  rw [if_neg (by omega), if_neg (by omega), if_pos (by omega)]
  refine ⟨_, rfl, rfl, ?_, ?_, ?_⟩ <;> dsimp only <;> omega

/-- Two first bytes bound the second one more: behind them an overlong form or a surrogate could come. -/
theorem announces_three (large : 2047 < v) (small : v ≤ 65535) (valid : v.isValidChar) :
    Announces (UInt8.ofNat (v / 4096 % 16 + 224)) 2 (v / 4096) (v / 64 % 64 + 128) := by
  have byte : (UInt8.ofNat (v / 4096 % 16 + 224)).toNat = v / 4096 + 224 := by
    rw [UInt8.toNat_ofNat']
    omega
  simp only [Announces, Utf8Lead.ofByte?, byte]
  rw [if_neg (by omega), if_neg (by omega), if_neg (by omega)]
  split
  · refine ⟨_, rfl, rfl, ?_, ?_, ?_⟩ <;> dsimp only <;> omega
  · split
    · refine ⟨_, rfl, rfl, ?_, ?_, ?_⟩ <;> dsimp only <;> omega
    · rw [if_pos (by omega)]
      refine ⟨_, rfl, rfl, ?_, ?_, ?_⟩ <;> dsimp only <;> omega

/-- Here the bounds keep out overlong forms, and code points past the last. -/
theorem announces_four (large : 65535 < v) (valid : v.isValidChar) :
    Announces (UInt8.ofNat (v / 262144 % 8 + 240)) 3 (v / 262144) (v / 4096 % 64 + 128) := by
  have byte : (UInt8.ofNat (v / 262144 % 8 + 240)).toNat = v / 262144 + 240 := by
    rw [UInt8.toNat_ofNat']
    omega
  simp only [Announces, Utf8Lead.ofByte?, byte]
  rw [if_neg (by omega), if_neg (by omega), if_neg (by omega), if_neg (by omega), if_neg (by omega),
    if_neg (by omega)]
  split
  · refine ⟨_, rfl, rfl, ?_, ?_, ?_⟩ <;> dsimp only <;> omega
  · split
    · refine ⟨_, rfl, rfl, ?_, ?_, ?_⟩ <;> dsimp only <;> omega
    · rw [if_pos (by omega)]
      refine ⟨_, rfl, rfl, ?_, ?_, ?_⟩ <;> dsimp only <;> omega

theorem decodeFrom_one (small : v ≤ 127) (start : Nat) (rest : List UInt8) :
    decodeFrom start (UInt8.ofNat v :: rest) =
      (decodeFrom (start + 1) rest).map (Char.ofNat v :: ·) := by
  have byte : (UInt8.ofNat v).toNat = v := by
    rw [UInt8.toNat_ofNat']
    omega
  have found : Utf8Lead.ofByte? (UInt8.ofNat v) = some { following := 0, bits := v } := by
    unfold Utf8Lead.ofByte?
    simp only [byte]
    rw [if_pos (by omega)]
  rw [decodeFrom]
  simp only [found, continuation]
  rfl

theorem decodeFrom_two (large : 127 < v) (small : v ≤ 2047) (start : Nat) (rest : List UInt8) :
    decodeFrom start ([UInt8.ofNat (v / 64 % 32 + 192), UInt8.ofNat (v % 64 + 128)] ++ rest) =
      (decodeFrom (start + 2) rest).map (Char.ofNat v :: ·) := by
  have first := announces_two large small
  rw [← toNat_tail v] at first
  have code : completed (v / 64) [UInt8.ofNat (v % 64 + 128)] = v := by
    rw [completed_tail]
    exact Nat.div_add_mod' v 64
  exact decodeFrom_announced first (List.forall_mem_nil _) code start rest

theorem decodeFrom_three (large : 2047 < v) (small : v ≤ 65535) (valid : v.isValidChar)
    (start : Nat) (rest : List UInt8) :
    decodeFrom start ([UInt8.ofNat (v / 4096 % 16 + 224), UInt8.ofNat (v / 64 % 64 + 128),
        UInt8.ofNat (v % 64 + 128)] ++ rest) =
      (decodeFrom (start + 3) rest).map (Char.ofNat v :: ·) := by
  have first := announces_three large small valid
  rw [← toNat_tail (v / 64)] at first
  have code : completed (v / 4096) [UInt8.ofNat (v / 64 % 64 + 128), UInt8.ofNat (v % 64 + 128)] =
      v := by
    rw [completed_tail, completed_tail]
    show (v / 4096 * 64 + v / 64 % 64) * 64 + v % 64 = v
    omega
  exact decodeFrom_announced first (List.forall_mem_singleton.mpr (tail_within v)) code start rest

theorem decodeFrom_four (large : 65535 < v) (valid : v.isValidChar) (start : Nat)
    (rest : List UInt8) :
    decodeFrom start ([UInt8.ofNat (v / 262144 % 8 + 240), UInt8.ofNat (v / 4096 % 64 + 128),
        UInt8.ofNat (v / 64 % 64 + 128), UInt8.ofNat (v % 64 + 128)] ++ rest) =
      (decodeFrom (start + 4) rest).map (Char.ofNat v :: ·) := by
  have first := announces_four large valid
  rw [← toNat_tail (v / 4096)] at first
  have code : completed (v / 262144) [UInt8.ofNat (v / 4096 % 64 + 128),
      UInt8.ofNat (v / 64 % 64 + 128), UInt8.ofNat (v % 64 + 128)] = v := by
    rw [completed_tail, completed_tail, completed_tail]
    show ((v / 262144 * 64 + v / 4096 % 64) * 64 + v / 64 % 64) * 64 + v % 64 = v
    omega
  refine decodeFrom_announced first ?_ code start rest
  exact List.forall_mem_cons.mpr
    ⟨tail_within (v / 64), List.forall_mem_singleton.mpr (tail_within v)⟩

end

/-! ### Texts -/

/-- What a character is encoded as is decoded to it, whatever follows. -/
theorem decodeFrom_encoded (c : Char) (start : Nat) (rest : List UInt8) :
    decodeFrom start (String.utf8EncodeChar c ++ rest) =
      (decodeFrom (start + (String.utf8EncodeChar c).length) rest).map (c :: ·) := by
  have valid : c.toNat.isValidChar := c.valid
  have same : Char.ofNat c.toNat = c := Char.ofNat_toNat c
  rw [String.utf8EncodeChar, show c.val.toNat = c.toNat from rfl]
  generalize c.toNat = v at valid same ⊢
  subst same
  split
  · rename_i small
    exact decodeFrom_one small start rest
  · rename_i large
    have large : 127 < v := Nat.lt_of_not_le large
    split
    · rename_i small
      exact decodeFrom_two large small start rest
    · rename_i large
      have large : 2047 < v := Nat.lt_of_not_le large
      split
      · rename_i small
        exact decodeFrom_three large small valid start rest
      · rename_i large
        exact decodeFrom_four (Nat.lt_of_not_le large) valid start rest

theorem decodeFrom_encodeUtf8 (start : Nat) (cs : List Char) :
    decodeFrom start (encodeUtf8 cs) = .ok cs := by
  induction cs generalizing start with
  | nil => rw [encodeUtf8, List.flatMap_nil, decodeFrom]
  | cons c cs ih =>
    rw [encodeUtf8, List.flatMap_cons, ← encodeUtf8, decodeFrom_encoded, ih]
    rfl

theorem decodeUtf8_encodeUtf8 (cs : List Char) : decodeUtf8 (encodeUtf8 cs) = .ok cs :=
  decodeFrom_encodeUtf8 0 cs

end TemporalQuery.Text
