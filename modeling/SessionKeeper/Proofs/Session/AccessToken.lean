import SessionKeeper.Proofs.Json.RoundTrip
import SessionKeeper.Session.AccessToken

/-!
A token that was issued validates under the secret that signed it, to the user that it was issued
for, until it has expired (`validate_issue`). Its parts are found again because no digit of a part
is a point, and the claims in it are read back as they were written.

Correspondence: `create_access_token` ↔ `AccessToken.issue`, `validate_access_token` ↔
`AccessToken.validate`. A token expires ten minutes after it was made, and a minute later it is no
longer accepted.

`issued_token_validates` is for every user number of 64 bits and every secret, and for every point
of time from 1970 on whose seconds are still numbers of 64 bits ten minutes later.
-/

namespace SessionKeeper

/-! ## Integers -/

namespace Text.Integer

theorem digit?_digitChar {n : Nat} (h : n < 10) : digit? (Nat.digitChar n) = some n := by
  have all : ∀ k : Fin 10, digit? (Nat.digitChar k.val) = some k.val := by decide
  exact all ⟨n, h⟩

theorem digits_cons {limit acc d : Nat} {c : Char} (beyond : Fault) (digit : digit? c = some d)
    (fits : acc * 10 + d ≤ limit) (cs : List Char) :
    digits limit beyond acc (c :: cs) = digits limit beyond (acc * 10 + d) cs := by
  have not_above : ¬ limit < acc * 10 + d := by omega
  simp [digits, digit, not_above]

/-- Digits that were written are read as their number, up to whatever follows them. -/
theorem digits_toDigits {limit n : Nat} (beyond : Fault) (fits : n ≤ limit) (cs : List Char) :
    digits limit beyond 0 (Nat.toDigits 10 n ++ cs) = digits limit beyond n cs := by
  induction n using Nat.strongRecOn generalizing cs with
  | ind n ih =>
    by_cases small : n < 10
    · rw [Nat.toDigits_of_lt_base small, List.singleton_append,
        digits_cons beyond (digit?_digitChar small) (by omega), Nat.zero_mul, Nat.zero_add]
    · have last : n % 10 < 10 := Nat.mod_lt n (by decide)
      have sum : n / 10 * 10 + n % 10 = n := by omega
      rw [Nat.toDigits_of_base_le (by decide) (by omega), List.append_assoc,
        ih (n / 10) (by omega) (by omega), List.singleton_append,
        digits_cons beyond (digit?_digitChar last) (by omega), sum]

theorem magnitude_toDigits {limit n : Nat} (beyond : Fault) (fits : n ≤ limit) :
    magnitude limit beyond (Nat.toDigits 10 n) = .ok n := by
  have read := digits_toDigits beyond fits []
  rw [List.append_nil, digits] at read
  cases written : Nat.toDigits 10 n with
  | nil => exact absurd written Nat.toDigits_ne_nil
  | cons c cs =>
    rw [written] at read
    exact read

/-- The integers of 64 bits. -/
def IsSigned64 (n : Int) : Prop := -9223372036854775808 ≤ n ∧ n ≤ 9223372036854775807

instance (n : Int) : Decidable (IsSigned64 n) := inferInstanceAs (Decidable (_ ∧ _))

theorem signed64_toString {n : Int} (fits : IsSigned64 n) : signed64 (toString n).toList = .ok n := by
  obtain ⟨least, most⟩ := fits
  rw [Int.toString_eq_repr, Int.repr_eq_if]
  by_cases positive : 0 ≤ n
  · have value : (n.toNat : Int) = n := Int.toNat_of_nonneg positive
    rw [if_pos positive, Nat.toList_repr]
    have read : magnitude 9223372036854775807 .tooLarge (Nat.toDigits 10 n.toNat) = .ok n.toNat :=
      magnitude_toDigits .tooLarge (by omega)
    -- No digit is a sign.
    have unsigned : signed64 (Nat.toDigits 10 n.toNat) =
        (magnitude 9223372036854775807 .tooLarge (Nat.toDigits 10 n.toNat)).map Int.ofNat := by
      cases written : Nat.toDigits 10 n.toNat with
      | nil => exact absurd written Nat.toDigits_ne_nil
      | cons c cs =>
        have isDigit : c.isDigit = true := by
          refine Nat.isDigit_of_mem_toDigits (by decide) (by decide) (n := n.toNat) (b := 10) ?_
          rw [written]
          exact List.mem_cons_self
        have plus : c ≠ '+' := by
          rintro rfl
          exact absurd isDigit (by decide)
        have minus : c ≠ '-' := by
          rintro rfl
          exact absurd isDigit (by decide)
        exact signed64.eq_4 (c :: cs) (by simp) (by simp [plus]) (by simp [minus])
    rw [unsigned, read]
    simp [Except.map, value]
  · have value : ((-n).toNat : Int) = -n := Int.toNat_of_nonneg (by omega)
    rw [if_neg positive, String.toList_append, Nat.toList_repr]
    have read : magnitude 9223372036854775808 .tooSmall (Nat.toDigits 10 (-n).toNat) =
        .ok (-n).toNat := magnitude_toDigits .tooSmall (by omega)
    have minus : "-".toList = ['-'] := rfl
    rw [minus, List.singleton_append, signed64, read]
    simp [Except.map, value]

end Text.Integer

theorem Json.int64?_wholeNumeral {n : Int} (fits : Text.Integer.IsSigned64 n) :
    (wholeNumeral (n < 0) n.natAbs).int64? = some n := by
  obtain ⟨least, most⟩ := fits
  by_cases negative : n < 0
  · have value : (n.natAbs : Int) = -n := Int.ofNat_natAbs_of_nonpos (by omega)
    have size : 0 < n.natAbs ∧ n.natAbs ≤ 9223372036854775808 := by omega
    simp [Numeral.int64?, wholeNumeral, Numeral.exponent, negative, size, value]
  · have value : (n.natAbs : Int) = n := Int.natAbs_of_nonneg (by omega)
    have size : n.natAbs ≤ 9223372036854775807 := by omega
    simp [Numeral.int64?, wholeNumeral, Numeral.exponent, negative, size, value]

namespace AccessToken

open Text.Integer (IsSigned64)

/-! ## Parts -/

theorem point_not_mem_encode (bytes : List UInt8) : '.' ∉ Text.Base64Url.encode bytes := by
  have all : ∀ k : Fin 64, Text.Base64Url.digit k.val ≠ '.' := by decide
  intro mem
  obtain ⟨n, group, same⟩ := List.mem_map.mp mem
  exact all ⟨n, Text.Base64Url.groups_lt bytes n group⟩ same

theorem splitLast?_append (cs : List Char) {ds : List Char} (plain : '.' ∉ ds) :
    splitLast? '.' (cs ++ '.' :: ds) = some (cs, ds) := by
  have turned : (cs ++ '.' :: ds).reverse = ds.reverse ++ '.' :: cs.reverse := by simp
  have others : ∀ d ∈ ds.reverse, (d != '.') = true := by
    intro d mem
    rw [bne_iff_ne]
    rintro rfl
    exact plain (List.mem_reverse.mp mem)
  have last : (cs ++ '.' :: ds).reverse.takeWhile (· != '.') = ds.reverse := by
    rw [turned, List.takeWhile_append_of_pos others]
    simp
  have shorter : ¬ ds.length = (cs ++ '.' :: ds).length := by
    rw [List.length_append, List.length_cons]
    omega
  rw [splitLast?, last, List.length_reverse, if_neg shorter, turned]
  have length : ds.reverse.length = ds.length := List.length_reverse
  simp [← List.drop_drop, List.drop_left' length]

theorem value?_part {members : List (String × Json)} (flat : ∀ m ∈ members, m.2.Flat) :
    value? (part (.ofMembers members)) = some (.ofMembers members) := by
  rw [value?, part, Text.Base64Url.decode?_encode, Option.bind_some, Json.value?_ofMembers flat]

theorem header_read : value? (part header) = some header := by
  refine value?_part ?_
  simp only [List.forall_mem_cons, List.not_mem_nil, false_implies, implies_true, and_true]
  exact ⟨.text _, .text _⟩

theorem header_accepted : acceptsHeader header = true := rfl

/-! ## Claims -/

namespace Claims

/-- What a token says, as the members of an object. -/
def members (c : Claims) : List (String × Json) :=
  [("sub", .ofText c.subject), ("exp", .ofInt c.expires), ("iat", .ofInt c.issued)]

theorem toJson_eq (c : Claims) : c.toJson = .ofMembers c.members := rfl

variable {c : Claims} (expires : IsSigned64 c.expires) (issued : IsSigned64 c.issued)

include expires issued

theorem flat : ∀ m ∈ c.members, m.2.Flat := by
  have fits : ∀ {n : Int}, IsSigned64 n → n.natAbs ≤ Json.Numeral.maxDigits := by
    intro n range
    obtain ⟨least, most⟩ := range
    have : n.natAbs ≤ 18446744073709551615 := by omega
    exact this
  simp only [members, List.forall_mem_cons, List.not_mem_nil, false_implies, implies_true,
    and_true]
  exact ⟨.text _, .int (fits expires), .int (fits issued)⟩

/-- The claims are read back from the part of the token that states them. -/
theorem members?_part : members? (part c.toJson) = some c.members := by
  rw [members?, toJson_eq, value?_part (flat expires issued)]
  rfl

theorem claims?_members : claims? c.members = some c := by
  have subject : text? c.members "sub" = some c.subject := rfl
  have ends : int? c.members "exp" = some c.expires := Json.int64?_wholeNumeral expires
  have starts : int? c.members "iat" = some c.issued := Json.int64?_wholeNumeral issued
  have unused : unusedFields.all (·.fits c.members) = true := rfl
  rw [claims?, if_pos unused, subject, ends, starts]
  rfl

theorem signed?_sign (secret : List UInt8) :
    signed? (sign secret c).toList secret = some c.members := by
  let input := part header ++ '.' :: part c.toJson
  have outer : splitLast? '.' (input ++ '.' :: signature secret input) =
      some (input, signature secret input) := splitLast?_append input (point_not_mem_encode _)
  have inner : splitLast? '.' input = some (part header, part c.toJson) :=
    splitLast?_append (part header) (point_not_mem_encode _)
  have read := members?_part expires issued
  have whole : (sign secret c).toList = input ++ '.' :: signature secret input :=
    String.toList_ofList
  rw [signed?, whole]
  simp [outer, inner, header_read, header_accepted, read]

end Claims

/-- A token expires ten minutes after it was issued, in whole seconds. -/
theorem expires_claimsFor (user : Int) (made : Timestamp) :
    (claimsFor user made).expires = made.seconds + 600 := by
  show Int.fdiv (made.nanos + 600 * 1000000000) 1000000000 = Int.fdiv made.nanos 1000000000 + 600
  exact Int.add_mul_fdiv_right made.nanos 600 (by decide)

/-- A token that was issued validates under the secret that signed it to the user that it was issued
for, until a minute after it has expired; from then on it is refused as expired. -/
theorem validate_issue {user : Int} {made : Timestamp} (secret : List UInt8) (now : Timestamp)
    (range : IsSigned64 user) (since : 0 ≤ (claimsFor user made).expires)
    (ends : (claimsFor user made).expires ≤ 9223372036854775807) :
    validate (issue user secret made) secret now =
      if (claimsFor user made).expires < now.seconds - leeway then .error .expired else .ok user := by
  have lasts := expires_claimsFor user made
  have issued : (claimsFor user made).issued = made.seconds := rfl
  have expires64 : IsSigned64 (claimsFor user made).expires := ⟨by omega, ends⟩
  have issued64 : IsSigned64 (claimsFor user made).issued := by
    rw [issued]
    exact ⟨by omega, by omega⟩
  have audience : hasAudience (claimsFor user made).members = false := rfl
  have subject : Text.Integer.signed64 (claimsFor user made).subject.toList = .ok user :=
    Text.Integer.signed64_toString range
  rw [validate, issue, Claims.signed?_sign expires64 issued64]
  simp only [Claims.claims?_members expires64 issued64, subject, audience]
  rw [if_neg (by omega)]
  rfl

/-- Every token that is issued from the epoch on, for any user and under any secret, ends ten minutes
after it was issued. Under the same secret it validates to its user up to the sixtieth second after
its end, and from the next second on it is refused as expired. -/
theorem issued_token_validates (user : Int) (secret : List UInt8) (made now : Timestamp)
    (range : IsSigned64 user) (epoch : 0 ≤ made.nanos)
    (fits : made.seconds + 600 ≤ 9223372036854775807) :
    (claimsFor user made).issued = made.seconds ∧
      (claimsFor user made).expires = made.seconds + 600 ∧
      (now.seconds ≤ made.seconds + 600 + 60 →
        validate (issue user secret made) secret now = .ok user) ∧
      (made.seconds + 600 + 60 < now.seconds →
        validate (issue user secret made) secret now = .error .expired) := by
  have ends := expires_claimsFor user made
  have since : 0 ≤ made.seconds := Int.fdiv_nonneg epoch (by decide)
  have validated : validate (issue user secret made) secret now = _ :=
    validate_issue secret now range (by omega) (by omega)
  rw [ends] at validated
  refine ⟨rfl, ends, fun good => ?_, fun past => ?_⟩
  · rw [validated, if_neg]
    show ¬ made.seconds + 600 < now.seconds - 60
    omega
  · rw [validated, if_pos]
    show made.seconds + 600 < now.seconds - 60
    omega

/-- The least user of 64 bits, under a secret longer than a block of the digest, in the last second
in which the token is good and in the one after it. -/
theorem issued_token_validates_least_user :
    let secret : List UInt8 := List.replicate 65 7
    let made : Timestamp := ⟨1700000000500000000⟩
    let token := issue (-9223372036854775808) secret made
    validate token secret ⟨1700000660999999999⟩ = .ok (-9223372036854775808) ∧
      validate token secret ⟨1700000661000000000⟩ = .error .expired := by
  intro secret made token
  have validates := fun now => issued_token_validates (-9223372036854775808) secret made now
    (by decide) (by decide) (by decide)
  exact ⟨(validates _).2.2.1 (by decide), (validates _).2.2.2 (by decide)⟩

end AccessToken

end SessionKeeper
