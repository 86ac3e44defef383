/-!
Base64 with the alphabet for URLs and without padding. Three bytes are four digits of six bits; the
one or two bytes left at the end are two or three digits, whose spare bits are zero. Reading accepts
nothing else.
-/

namespace SessionKeeper.Text.Base64Url

/-- The digit with the given value below 64. -/
def digit (n : Nat) : Char :=
  if n < 26 then Char.ofNat ('A'.toNat + n)
  else if n < 52 then Char.ofNat ('a'.toNat + (n - 26))
  else if n < 62 then Char.ofNat ('0'.toNat + (n - 52))
  else if n = 62 then '-'
  else '_'

def value? (c : Char) : Option Nat :=
  if 'A' ≤ c ∧ c ≤ 'Z' then some (c.toNat - 'A'.toNat)
  else if 'a' ≤ c ∧ c ≤ 'z' then some (c.toNat - 'a'.toNat + 26)
  else if '0' ≤ c ∧ c ≤ '9' then some (c.toNat - '0'.toNat + 52)
  else if c = '-' then some 62
  else if c = '_' then some 63
  else none

/-- The six-bit groups of some bytes. -/
def groups : List UInt8 → List Nat
  | [] => []
  | [a] => [a.toNat / 4, a.toNat % 4 * 16]
  | [a, b] => [a.toNat / 4, a.toNat % 4 * 16 + b.toNat / 16, b.toNat % 16 * 4]
  | a :: b :: c :: rest =>
    a.toNat / 4 :: (a.toNat % 4 * 16 + b.toNat / 16) :: (b.toNat % 16 * 4 + c.toNat / 64)
      :: c.toNat % 64 :: groups rest

/-- The bytes of some six-bit groups. -/
def bytes? : List Nat → Option (List UInt8)
  | [] => some []
  | [_] => none
  | [a, b] => if b % 16 = 0 then some [(a * 4 + b / 16).toUInt8] else none
  | [a, b, c] =>
    if c % 4 = 0 then some [(a * 4 + b / 16).toUInt8, (b % 16 * 16 + c / 4).toUInt8] else none
  | a :: b :: c :: d :: rest => (bytes? rest).map fun tail =>
    (a * 4 + b / 16).toUInt8 :: (b % 16 * 16 + c / 4).toUInt8 :: (c % 4 * 64 + d).toUInt8 :: tail

def encode (bytes : List UInt8) : List Char := (groups bytes).map digit

def decode? (cs : List Char) : Option (List UInt8) := (cs.mapM value?).bind bytes?

/-! ## Reading what was written -/

theorem value?_digit (n : Nat) (h : n < 64) : value? (digit n) = some n := by
  have all : ∀ k : Fin 64, value? (digit k.val) = some k.val := by decide
  exact all ⟨n, h⟩

theorem toNat_lt (b : UInt8) : b.toNat < 256 := b.toNat_lt

theorem groups_lt (bytes : List UInt8) : ∀ n ∈ groups bytes, n < 64 := by
  fun_induction groups bytes with
  | case1 => simp
  | case2 a =>
    have := toNat_lt a
    simp only [List.mem_cons, List.not_mem_nil, or_false]
    omega
  | case3 a b =>
    have := toNat_lt a
    have := toNat_lt b
    simp only [List.mem_cons, List.not_mem_nil, or_false]
    omega
  | case4 a b c rest ih =>
    have := toNat_lt a
    have := toNat_lt b
    have := toNat_lt c
    simp only [List.mem_cons]
    intro n mem
    rcases mem with rfl | rfl | rfl | rfl | mem
    · omega
    · omega
    · omega
    · omega
    · exact ih n mem

theorem toUInt8_eq (b : UInt8) (n : Nat) (h : n = b.toNat) : n.toUInt8 = b := by
  subst h
  exact UInt8.ofNat_toNat

theorem bytes?_groups (bytes : List UInt8) : bytes? (groups bytes) = some bytes := by
  fun_induction groups bytes with
  | case1 => rfl
  | case2 a =>
    have := toNat_lt a
    rw [bytes?, if_pos (by omega), toUInt8_eq a _ (by omega)]
  | case3 a b =>
    have := toNat_lt a
    have := toNat_lt b
    rw [bytes?, if_pos (by omega), toUInt8_eq a _ (by omega), toUInt8_eq b _ (by omega)]
  | case4 a b c rest ih =>
    have := toNat_lt a
    have := toNat_lt b
    have := toNat_lt c
    rw [bytes?, ih, Option.map_some, toUInt8_eq a _ (by omega), toUInt8_eq b _ (by omega),
      toUInt8_eq c _ (by omega)]

theorem mapM_value?_digit (ns : List Nat) (h : ∀ n ∈ ns, n < 64) :
    (ns.map digit).mapM value? = some ns := by
  induction ns with
  | nil => rfl
  | cons n ns ih =>
    have first := value?_digit n (h n List.mem_cons_self)
    have rest := ih fun m mem => h m (List.mem_cons_of_mem n mem)
    simp [first, rest]

/-- What was written is read back. -/
theorem decode?_encode (bytes : List UInt8) : decode? (encode bytes) = some bytes := by
  rw [decode?, encode, mapM_value?_digit _ (groups_lt bytes)]
  exact bytes?_groups bytes

/-! ## Reading nothing else -/

theorem ofNat_eq {c : Char} {n : Nat} (h : n = c.toNat) : Char.ofNat n = c := by
  subst h
  exact Char.ofNat_toNat c

theorem digit_of_value? {c : Char} {n : Nat} (h : value? c = some n) : n < 64 ∧ digit n = c := by
  have codes : 'A'.toNat = 65 ∧ 'Z'.toNat = 90 ∧ 'a'.toNat = 97 ∧ 'z'.toNat = 122 ∧
      '0'.toNat = 48 ∧ '9'.toNat = 57 := by decide
  obtain ⟨upperA, upperZ, lowerA, lowerZ, zero, nine⟩ := codes
  have order : ∀ d e : Char, d ≤ e ↔ d.toNat ≤ e.toNat := fun _ _ => Iff.rfl
  simp only [value?, order, upperA, upperZ, lowerA, lowerZ, zero, nine] at h
  simp only [digit, upperA, lowerA, zero]
  split at h
  · cases h
    exact ⟨by omega, by rw [if_pos (by omega)]; exact ofNat_eq (by omega)⟩
  · split at h
    · cases h
      refine ⟨by omega, ?_⟩
      rw [if_neg (by omega), if_pos (by omega)]
      exact ofNat_eq (by omega)
    · split at h
      · cases h
        refine ⟨by omega, ?_⟩
        rw [if_neg (by omega), if_neg (by omega), if_pos (by omega)]
        exact ofNat_eq (by omega)
      · split at h
        · rename_i _ _ _ minus
          cases h
          exact ⟨by decide, minus.symm⟩
        · split at h
          · rename_i _ _ _ _ low
            cases h
            exact ⟨by decide, low.symm⟩
          · cases h

/-- Only groups without spare bits are those of bytes. -/
theorem groups_of_bytes? {ns : List Nat} {bytes : List UInt8} (small : ∀ n ∈ ns, n < 64)
    (h : bytes? ns = some bytes) : groups bytes = ns := by
  have byte : ∀ {n : Nat}, n < 256 → n.toUInt8.toNat = n := fun h => by
    simpa using Nat.mod_eq_of_lt h
  fun_induction bytes? ns generalizing bytes with
  | case1 =>
    cases h
    rfl
  | case2 => cases h
  | case3 a b spare =>
    cases h
    simp only [List.forall_mem_cons] at small
    rw [groups, byte (by omega)]
    congr 2 <;> omega
  | case4 => cases h
  | case5 a b c spare =>
    cases h
    simp only [List.forall_mem_cons] at small
    rw [groups, byte (by omega), byte (by omega)]
    congr 3 <;> omega
  | case6 => cases h
  | case7 a b c d rest ih =>
    obtain ⟨tail, read, rfl⟩ := Option.map_eq_some_iff.mp h
    simp only [List.forall_mem_cons] at small
    rw [groups, byte (by omega), byte (by omega), byte (by omega), ih small.2.2.2.2 read]
    congr 4 <;> omega

/-- A text is read as some bytes just if it is how they are written. -/
theorem decode?_eq_some_iff {cs : List Char} {bytes : List UInt8} :
    decode? cs = some bytes ↔ cs = encode bytes := by
  constructor
  · intro h
    obtain ⟨ns, values, read⟩ := Option.bind_eq_some_iff.mp h
    have written : (∀ n ∈ ns, n < 64) ∧ ns.map digit = cs := by
      clear h read
      induction cs generalizing ns with
      | nil =>
        cases values
        exact ⟨by simp, rfl⟩
      | cons c cs ih =>
        simp only [List.mapM_cons, Option.bind_eq_bind, Option.bind_eq_some_iff] at values
        obtain ⟨n, first, ms, rest, same⟩ := values
        cases same
        obtain ⟨small, digit⟩ := digit_of_value? first
        obtain ⟨smalls, digits⟩ := ih ms rest
        exact ⟨List.forall_mem_cons.mpr ⟨small, smalls⟩, by rw [List.map_cons, digit, digits]⟩
    rw [encode, groups_of_bytes? written.1 read, written.2]
  · rintro rfl
    exact decode?_encode bytes

end SessionKeeper.Text.Base64Url
