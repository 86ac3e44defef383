/-!
UTF-8: the bytes of a text, and the text that bytes denote. Only the shortest form of a code point
is read, and surrogates are no code points. Whatever was written is read back
(`decode?_encodeList`).
-/

namespace SessionKeeper.Text.Utf8

/-- A byte that continues a code point with six of its bits. -/
def tail (bits : Nat) : UInt8 := (0x80 + bits % 64).toUInt8

/-- The bytes of a character: one to four. -/
def encodeChar (c : Char) : List UInt8 :=
  let n := c.toNat
  if n < 0x80 then [n.toUInt8]
  else if n < 0x800 then [(0xC0 + n / 64).toUInt8, tail n]
  else if n < 0x10000 then [(0xE0 + n / 64 / 64).toUInt8, tail (n / 64), tail n]
  else [(0xF0 + n / 64 / 64 / 64).toUInt8, tail (n / 64 / 64), tail (n / 64), tail n]

def encodeList (cs : List Char) : List UInt8 := cs.flatMap encodeChar

def encode (s : String) : List UInt8 := encodeList s.toList

/-- The six bits in a byte that continues a code point. -/
def bits? (b : UInt8) : Option Nat :=
  if 0x80 ≤ b.toNat ∧ b.toNat < 0xC0 then some (b.toNat - 0x80) else none

/-- The character of a code point that needs at least `least` in its form. -/
def char? (least n : Nat) : Option Char :=
  if least ≤ n ∧ n.isValidChar then some (Char.ofNat n) else none

def decode? : List UInt8 → Option (List Char)
  | [] => some []
  | a :: rest =>
    if a.toNat < 0x80 then (decode? rest).map (Char.ofNat a.toNat :: ·)
    -- A byte below 0xC0 only continues a code point.
    else if a.toNat < 0xC0 then none
    else match rest with
      | [] => none
      | b :: rest =>
        if a.toNat < 0xE0 then
          match (bits? b).bind fun y => char? 0x80 ((a.toNat - 0xC0) * 64 + y) with
          | some c => (decode? rest).map (c :: ·)
          | none => none
        else match rest with
          | [] => none
          | d :: rest =>
            if a.toNat < 0xF0 then
              match (bits? b).bind fun y => (bits? d).bind fun z =>
                  char? 0x800 (((a.toNat - 0xE0) * 64 + y) * 64 + z) with
              | some c => (decode? rest).map (c :: ·)
              | none => none
            else match rest with
              | [] => none
              | e :: rest =>
                match (bits? b).bind fun y => (bits? d).bind fun z => (bits? e).bind fun w =>
                    char? 0x10000 ((((a.toNat - 0xF0) * 64 + y) * 64 + z) * 64 + w) with
                | some c => (decode? rest).map (c :: ·)
                | none => none

/-! ## Reading what was written -/

theorem toNat_toUInt8 {n : Nat} (h : n < 256) : n.toUInt8.toNat = n := by
  simpa using Nat.mod_eq_of_lt h

theorem bits?_tail (n : Nat) : bits? (tail n) = some (n % 64) := by
  have small : 0x80 + n % 64 < 256 := by omega
  rw [bits?, tail, toNat_toUInt8 small, if_pos (by omega), Nat.add_sub_cancel_left]

theorem char?_toNat (c : Char) {least n : Nat} (h : least ≤ c.toNat) (hn : n = c.toNat) :
    char? least n = some c := by
  subst hn
  rw [char?, if_pos ⟨h, c.valid⟩, Char.ofNat_toNat]

theorem toNat_lt (c : Char) : c.toNat < 0x110000 := by
  have valid : c.toNat < 0xD800 ∨ 0xDFFF < c.toNat ∧ c.toNat < 0x110000 := c.valid
  omega

/-- The bytes of a character are read as that character, whatever follows. -/
theorem decode?_encodeChar (c : Char) (rest : List UInt8) :
    decode? (encodeChar c ++ rest) = (decode? rest).map (c :: ·) := by
  have bound := toNat_lt c
  rw [encodeChar]
  split
  · rename_i h
    have byte : c.toNat.toUInt8.toNat = c.toNat := toNat_toUInt8 (by omega)
    rw [List.singleton_append, decode?.eq_def]
    simp only
    rw [byte, if_pos h, Char.ofNat_toNat]
  · split
    · rename_i _ h
      have byte : (0xC0 + c.toNat / 64).toUInt8.toNat = 0xC0 + c.toNat / 64 :=
        toNat_toUInt8 (by omega)
      simp only [List.cons_append, List.nil_append]
      rw [decode?.eq_def]
      simp only
      rw [byte, if_neg (by omega), if_neg (by omega), if_pos (by omega), bits?_tail,
        Option.bind_some, char?_toNat c (by omega) (by omega)]
    · split
      · rename_i _ _ h
        have byte : (0xE0 + c.toNat / 64 / 64).toUInt8.toNat = 0xE0 + c.toNat / 64 / 64 :=
          toNat_toUInt8 (by omega)
        simp only [List.cons_append, List.nil_append]
        rw [decode?.eq_def]
        simp only
        rw [byte, if_neg (by omega), if_neg (by omega), if_neg (by omega),
          if_pos (by omega), bits?_tail, bits?_tail, Option.bind_some, Option.bind_some,
          char?_toNat c (by omega) (by omega)]
      · have byte : (0xF0 + c.toNat / 64 / 64 / 64).toUInt8.toNat = 0xF0 + c.toNat / 64 / 64 / 64 :=
          toNat_toUInt8 (by omega)
        simp only [List.cons_append, List.nil_append]
        rw [decode?.eq_def]
        simp only
        rw [byte, if_neg (by omega), if_neg (by omega), if_neg (by omega),
          if_neg (by omega), bits?_tail, bits?_tail, bits?_tail, Option.bind_some,
          Option.bind_some, Option.bind_some, char?_toNat c (by omega) (by omega)]

/-- What was written is read back. -/
theorem decode?_encodeList (cs : List Char) : decode? (encodeList cs) = some cs := by
  induction cs with
  | nil => rfl
  | cons c cs ih =>
    rw [encodeList, List.flatMap_cons, decode?_encodeChar]
    rw [encodeList] at ih
    rw [ih, Option.map_some]

end SessionKeeper.Text.Utf8
