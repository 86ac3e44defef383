import SessionKeeper.Proofs.Session.AccessToken

/-!
What is known of a token from the answer to it. A token is taken apart at its last two points, and
each part can be read in one way only, so the answer tells what the parts are. A lemma for each
layer says what is read from it: the points (`splitLast?_eq_some_iff`), the digits of a part
(`Text.Base64Url.decode?_eq_some_iff`), the header (`namesHS256_of_accepts`), the claims
(`claims?_eq_some_iff`) and the integers in them. `wellSigned_iff` puts the layers together.

`WellSigned` is what a token has to be for anything more to be looked at, and `validate_sound` tells
each answer of `validate_access_token` from it, for every token, secret and time. A header may be
written as a list of its members, and claims that name an audience are refused; both are what the
reader of tokens does, and `listed_header_accepted` is a token that shows the first.
-/

namespace SessionKeeper

/-! ## Integers -/

namespace Text.Integer

/-- The decimal digits are those of the number. -/
structure Digits (cs : List Char) (n : Nat) : Prop where
  digits : ∀ c ∈ cs, c.isDigit = true
  value : n = Nat.ofDigitChars 10 cs 0

/-- The text is a decimal numeral of the integer: an optional sign and at least one digit. -/
inductive Names : List Char → Int → Prop
  | unsigned {cs : List Char} {n : Nat} : cs ≠ [] → Digits cs n → Names cs n
  | plus {cs : List Char} {n : Nat} : cs ≠ [] → Digits cs n → Names ('+' :: cs) n
  | minus {cs : List Char} {n : Nat} : cs ≠ [] → Digits cs n → Names ('-' :: cs) (-n)

theorem digit?_eq_some_iff {c : Char} {d : Nat} :
    digit? c = some d ↔ c.isDigit = true ∧ d = c.toNat - '0'.toNat := by
  have range : ('0' ≤ c ∧ c ≤ '9') ↔ c.isDigit = true := by
    rw [Char.isDigit, Bool.and_eq_true, decide_eq_true_eq, decide_eq_true_eq]
    rfl
  by_cases isDigit : c.isDigit = true
  · rw [digit?, if_pos (range.mpr isDigit), Option.some.injEq]
    exact ⟨fun h => ⟨isDigit, h.symm⟩, fun h => h.2.symm⟩
  · rw [digit?, if_neg fun h => isDigit (range.mp h)]
    exact ⟨(by cases ·), fun h => absurd h.1 isDigit⟩

theorem le_ofDigitChars (cs : List Char) (acc : Nat) : acc ≤ Nat.ofDigitChars 10 cs acc := by
  induction cs generalizing acc with
  | nil => exact Nat.le_refl acc
  | cons c cs ih =>
    rw [Nat.ofDigitChars_cons]
    have := ih (10 * acc + (c.toNat - '0'.toNat))
    omega

/-- Digits are read as the number that they make, if it is within the limit. -/
theorem digits_eq_ok_iff {limit acc n : Nat} {beyond : Fault} {cs : List Char} (least : acc ≤ limit) :
    digits limit beyond acc cs = .ok n ↔
      (∀ c ∈ cs, c.isDigit = true) ∧ n = Nat.ofDigitChars 10 cs acc ∧ n ≤ limit := by
  induction cs generalizing acc with
  | nil =>
    rw [digits, Except.ok.injEq]
    constructor
    · rintro rfl
      exact ⟨by simp, rfl, least⟩
    · rintro ⟨-, same, -⟩
      exact same.symm
  | cons c cs ih =>
    rw [List.forall_mem_cons, Nat.ofDigitChars_cons, digits]
    cases digit : digit? c with
    | none =>
      have other : ¬ c.isDigit = true := fun isDigit => by
        have found := digit?_eq_some_iff.mpr ⟨isDigit, rfl⟩
        rw [digit] at found
        cases found
      exact ⟨(by cases ·), fun h => absurd h.1.1 other⟩
    | some d =>
      obtain ⟨isDigit, rfl⟩ := digit?_eq_some_iff.mp digit
      have order : acc * 10 + (c.toNat - '0'.toNat) = 10 * acc + (c.toNat - '0'.toNat) := by omega
      simp only [order]
      by_cases above : limit < 10 * acc + (c.toNat - '0'.toNat)
      · -- What is beyond the limit already stays so.
        have grows := le_ofDigitChars cs (10 * acc + (c.toNat - '0'.toNat))
        simp only [above, if_true]
        constructor
        · intro h
          cases h
        · rintro ⟨-, rfl, within⟩
          omega
      · simp only [above, if_false]
        rw [ih (by omega)]
        simp [isDigit]

theorem magnitude_eq_ok_iff {limit n : Nat} {beyond : Fault} {cs : List Char} :
    magnitude limit beyond cs = .ok n ↔ cs ≠ [] ∧ Digits cs n ∧ n ≤ limit := by
  cases cs with
  | nil => simp [magnitude]
  | cons c cs =>
    rw [magnitude, digits_eq_ok_iff (Nat.zero_le _)]
    · constructor
      · rintro ⟨digits, value, within⟩
        exact ⟨by simp, ⟨digits, value⟩, within⟩
      · rintro ⟨-, ⟨digits, value⟩, within⟩
        exact ⟨digits, value, within⟩
    · simp

/-- A text is read as an integer just if it is a numeral of it, and it has 64 bits. -/
theorem signed64_eq_ok_iff {cs : List Char} {n : Int} :
    signed64 cs = .ok n ↔ Names cs n ∧ IsSigned64 n := by
  have mapped : ∀ {f : Nat → Int} {limit : Nat} {beyond : Fault} {cs : List Char},
      (magnitude limit beyond cs).map f = .ok n ↔
        ∃ m, cs ≠ [] ∧ Digits cs m ∧ m ≤ limit ∧ f m = n := by
    intro f limit beyond cs
    constructor
    · intro h
      cases read : magnitude limit beyond cs with
      | error fault => simp [read, Except.map] at h
      | ok m =>
        obtain ⟨some, digits, within⟩ := magnitude_eq_ok_iff.mp read
        exact ⟨m, some, digits, within, by simpa [read, Except.map] using h⟩
    · rintro ⟨m, some, digits, within, rfl⟩
      rw [magnitude_eq_ok_iff.mpr ⟨some, digits, within⟩]
      rfl
  have plus : ¬ '+'.isDigit = true := by decide
  have minus : ¬ '-'.isDigit = true := by decide
  constructor
  · intro h
    unfold signed64 at h
    split at h
    · cases h
    · obtain ⟨m, some, digits, within, rfl⟩ := mapped.mp h
      exact ⟨.plus some digits, by simp only [IsSigned64, Int.ofNat_eq_natCast]; omega⟩
    · obtain ⟨m, some, digits, within, rfl⟩ := mapped.mp h
      exact ⟨.minus some digits, by simp only [IsSigned64, Int.ofNat_eq_natCast]; omega⟩
    · obtain ⟨m, some, digits, within, rfl⟩ := mapped.mp h
      exact ⟨.unsigned some digits, by simp only [IsSigned64, Int.ofNat_eq_natCast]; omega⟩
  · rintro ⟨names, least, most⟩
    cases names with
    | @unsigned _ m some digits =>
      cases cs with
      | nil => exact absurd rfl some
      | cons c cs =>
        have isDigit := digits.digits c List.mem_cons_self
        rw [signed64.eq_4 (c :: cs) (by simp) (by rintro rest ⟨⟩; exact plus isDigit)
          (by rintro rest ⟨⟩; exact minus isDigit)]
        exact mapped.mpr ⟨m, some, digits, by omega, rfl⟩
    | @plus cs m some digits => exact mapped.mpr ⟨m, some, digits, by omega, rfl⟩
    | @minus cs m some digits => exact mapped.mpr ⟨m, some, digits, by omega, rfl⟩

end Text.Integer

namespace Json

/-- The number is written as the integer: with no point and no exponent, and not as minus zero. -/
structure Numeral.IsInteger (n : Numeral) (k : Int) : Prop where
  integral : n.integral = true
  exponent : n.exponent = 0
  value : k = if n.negative then -(n.digits : Int) else n.digits
  signed : n.negative = true → 0 < n.digits

theorem Numeral.int64?_eq_some_iff {n : Numeral} {k : Int} :
    n.int64? = some k ↔ n.IsInteger k ∧ Text.Integer.IsSigned64 k := by
  unfold int64?
  split
  · rename_i other
    refine ⟨(by cases ·), fun ⟨is, _⟩ => ?_⟩
    simp [is.integral, is.exponent] at other
  · rename_i whole
    obtain ⟨integral, exponent⟩ : n.integral = true ∧ n.exponent = 0 := by simpa using whole
    cases negative : n.negative with
    | true =>
      rw [if_pos rfl]
      constructor
      · intro h
        obtain ⟨⟨some, within⟩, same⟩ := Option.ite_none_right_eq_some.mp h
        have value : -(n.digits : Int) = k := Option.some.inj same
        refine ⟨⟨integral, exponent, by rw [negative, if_pos rfl, value], fun _ => some⟩, ?_⟩
        exact ⟨by omega, by omega⟩
      · rintro ⟨is, least, most⟩
        have value := is.value
        rw [negative, if_pos rfl] at value
        rw [if_pos ⟨is.signed negative, by omega⟩, value]
    | false =>
      rw [if_neg Bool.false_ne_true]
      constructor
      · intro h
        obtain ⟨within, same⟩ := Option.ite_none_right_eq_some.mp h
        have value : (n.digits : Int) = k := Option.some.inj same
        refine ⟨⟨integral, exponent, ?_, fun h => ?_⟩, by omega, by omega⟩
        · rw [negative, if_neg Bool.false_ne_true, value]
        · rw [negative] at h
          cases h
      · rintro ⟨is, least, most⟩
        have value := is.value
        rw [negative, if_neg Bool.false_ne_true] at value
        rw [if_pos (by omega), value]

/-- An object all of whose names are readable has just the members that are read from it. -/
theorem members?_eq_some_iff {value : Json} {members : List (String × Json)} :
    value.members? = some members ↔ value = .ofMembers members := by
  cases value with
  | object named =>
    rw [members?, ofMembers, Json.object.injEq]
    induction named generalizing members with
    | nil => cases members <;> simp
    | cons m named ih =>
      obtain ⟨name, value⟩ := m
      cases members with
      | nil => cases name <;> simp [Option.bind_eq_some_iff]
      | cons m' members =>
        cases name with
        | none => simp
        | some name => simpa [← ih, Option.bind_eq_some_iff, Prod.ext_iff] using and_comm
  | _ => simp [members?, ofMembers]

end Json

namespace AccessToken

/-! ## Parts -/

theorem splitLast?_eq_some_iff {cs before after : List Char} :
    splitLast? '.' cs = some (before, after) ↔ cs = before ++ '.' :: after ∧ '.' ∉ after := by
  constructor
  · intro h
    by_cases pointed : '.' ∈ cs
    · obtain ⟨last, others, turned, bare⟩ :=
        List.eq_append_cons_of_mem (List.mem_reverse.mpr pointed)
      have parted : cs = others.reverse ++ '.' :: last.reverse := by
        rw [← List.reverse_reverse cs, turned]
        simp
      have bare : '.' ∉ last.reverse := by simpa using bare
      rw [parted, splitLast?_append _ bare] at h
      cases h
      exact ⟨parted, bare⟩
    · have others : ∀ c ∈ cs.reverse, (c != '.') = true := by
        intro c mem
        rw [bne_iff_ne]
        rintro rfl
        exact pointed (List.mem_reverse.mp mem)
      have all : (cs.reverse ++ []).takeWhile (· != '.') = cs.reverse ++ [] :=
        List.takeWhile_append_of_pos others
      rw [List.append_nil] at all
      simp [splitLast?, all] at h
  · rintro ⟨rfl, bare⟩
    exact splitLast?_append before bare

theorem parted_unique {head body mark head' body' mark' : List Char}
    (same : (head ++ '.' :: body) ++ '.' :: mark = (head' ++ '.' :: body') ++ '.' :: mark')
    (bareBody : '.' ∉ body) (bareMark : '.' ∉ mark) (bareBody' : '.' ∉ body')
    (bareMark' : '.' ∉ mark') : head = head' ∧ body = body' ∧ mark = mark' := by
  have outer := splitLast?_append (head ++ '.' :: body) bareMark
  rw [same, splitLast?_append _ bareMark'] at outer
  obtain ⟨inputs, rfl⟩ := Prod.ext_iff.mp (Option.some.inj outer)
  have inner := splitLast?_append head bareBody
  rw [← show head' ++ '.' :: body' = head ++ '.' :: body from inputs,
    splitLast?_append _ bareBody'] at inner
  obtain ⟨rfl, rfl⟩ := Prod.ext_iff.mp (Option.some.inj inner)
  exact ⟨rfl, rfl, rfl⟩

/-- The part is the text of the value in Base64. -/
def Denotes (part : List Char) (value : Json) : Prop :=
  ∃ bytes, part = Text.Base64Url.encode bytes ∧ (Json.Document.ofBytes bytes).value? = some value

theorem value?_eq_some_iff {part : List Char} {value : Json} :
    value? part = some value ↔ Denotes part value := by
  simp [value?, Denotes, Option.bind_eq_some_iff, Text.Base64Url.decode?_eq_some_iff]

theorem Denotes.unique {part : List Char} {value value' : Json} (h : Denotes part value)
    (h' : Denotes part value') : value = value' := by
  rw [← value?_eq_some_iff] at h h'
  exact Option.some.inj (h.symm.trans h')

/-! ## Headers -/

/-- The name of the algorithm, by itself or over nothing. -/
inductive IsHS256 : Json → Prop
  | text : IsHS256 (.text "HS256")
  | over : IsHS256 (.object [(some "HS256", .null)])

/-- The header is an object with the algorithm as its one `alg`, or it is the list of the values of
a header, with the algorithm in the second place. -/
inductive NamesHS256 : Json → Prop
  | member {members : List (String × Json)} {alg : Json} :
      Json.valuesOf members "alg" = [alg] → IsHS256 alg → NamesHS256 (.ofMembers members)
  | listed {typ alg : Json} {others : List Json} :
      others.length = 8 → IsHS256 alg → NamesHS256 (.list (typ :: alg :: others))

theorem isHS256_of_isWordOf {alg : Json} (h : Json.isWordOf ["HS256"] alg = true) :
    IsHS256 alg := by
  unfold Json.isWordOf Json.word? at h
  split at h
  · obtain rfl : _ = "HS256" := by simpa using h
    exact .text
  · rename_i word value
    split at h
    · rename_i blank
      obtain rfl : word = "HS256" := by simpa using h
      cases value with
      | null => exact .over
      | _ => cases blank
    · cases h
  · cases h

theorem namesHS256_of_accepts {header : Json} (accepts : acceptsHeader header = true) :
    NamesHS256 header := by
  unfold acceptsHeader Json.Field.allFit at accepts
  split at accepts
  · rename_i items
    obtain ⟨length, accepted⟩ := Bool.and_eq_true_iff.mp accepts
    have ten : items.length = 10 := by simpa [headerFields] using length
    match items, ten with
    | typ :: alg :: others, ten =>
      simp only [headerFields, List.zip_cons_cons, List.all_cons, Bool.and_eq_true] at accepted
      exact .listed (by simpa using ten) (isHS256_of_isWordOf accepted.2.1)
  · split at accepts
    · rename_i members read
      rw [Json.members?_eq_some_iff.mp read]
      have fits : (requiredField "alg" (Json.isWordOf ["HS256"])).fits members = true :=
        List.all_eq_true.mp accepts _ (by simp [headerFields])
      unfold Json.Field.fits at fits
      split at fits
      · cases fits
      · rename_i alg one
        exact .member one (isHS256_of_isWordOf fits)
      · cases fits
    · cases accepts

/-! ## Claims -/

/-- The members state the claims: each of them once, and each with a value of its type. The members
that are not used are in nobody's way. -/
structure Claims.StatedBy (claims : Claims) (members : List (String × Json)) : Prop where
  subject : Json.valuesOf members "sub" = [.text claims.subject]
  expires : ∃ n, Json.valuesOf members "exp" = [.number n] ∧ n.IsInteger claims.expires ∧
    Text.Integer.IsSigned64 claims.expires
  issued : ∃ n, Json.valuesOf members "iat" = [.number n] ∧ n.IsInteger claims.issued ∧
    Text.Integer.IsSigned64 claims.issued
  unused : ∀ field ∈ unusedFields, field.fits members = true

theorem text?_eq_some_iff {members : List (String × Json)} {name value : String} :
    text? members name = some value ↔ Json.valuesOf members name = [.text value] := by
  unfold text?
  split
  · rename_i found one
    simp [one]
  · rename_i other
    exact ⟨(by cases ·), fun one => absurd one (other value)⟩

theorem int?_eq_some_iff {members : List (String × Json)} {name : String} {k : Int} :
    int? members name = some k ↔ ∃ n, Json.valuesOf members name = [.number n] ∧ n.IsInteger k ∧
      Text.Integer.IsSigned64 k := by
  unfold int?
  split
  · rename_i n one
    simp [one, Json.Numeral.int64?_eq_some_iff]
  · rename_i other
    exact ⟨(by cases ·), fun ⟨n, one, _⟩ => absurd one (other n)⟩

theorem claims?_eq_some_iff {members : List (String × Json)} {claims : Claims} :
    claims? members = some claims ↔ claims.StatedBy members := by
  unfold claims?
  constructor
  · intro h
    obtain ⟨unused, read⟩ := Option.ite_none_right_eq_some.mp h
    simp only [Option.bind_eq_bind, Option.bind_eq_some_iff] at read
    obtain ⟨subject, hsubject, expires, hexpires, issued, hissued, same⟩ := read
    cases same
    exact ⟨text?_eq_some_iff.mp hsubject, int?_eq_some_iff.mp hexpires,
      int?_eq_some_iff.mp hissued, List.all_eq_true.mp unused⟩
  · rintro ⟨subject, expires, issued, unused⟩
    rw [if_pos (List.all_eq_true.mpr unused), text?_eq_some_iff.mpr subject,
      int?_eq_some_iff.mpr expires, int?_eq_some_iff.mpr issued]
    rfl

/-! ## Tokens -/

/-- The token is made of `head`, `body` and the signature of both under the secret. As neither the
body nor the signature has a point in it, these are what its last two points part. -/
structure SignedAs (token : List Char) (secret : List UInt8) (head body : List Char) : Prop where
  joined : token = (head ++ '.' :: body) ++ '.' :: signature secret (head ++ '.' :: body)
  bare : '.' ∉ body

theorem point_not_mem_signature (secret : List UInt8) (input : List Char) :
    '.' ∉ signature secret input := point_not_mem_encode _

theorem signed?_eq_some_iff {token : List Char} {secret : List UInt8}
    {members : List (String × Json)} :
    signed? token secret = some members ↔ ∃ head body header, SignedAs token secret head body ∧
      Denotes head header ∧ acceptsHeader header = true ∧ Denotes body (.ofMembers members) := by
  constructor
  · intro h
    simp only [signed?, Option.bind_eq_bind, Option.bind_eq_some_iff] at h
    obtain ⟨⟨input, mark⟩, outer, ⟨head, body⟩, inner, header, read, h⟩ := h
    obtain ⟨good, told⟩ := Option.ite_none_right_eq_some.mp h
    obtain ⟨accepts, same⟩ := Bool.and_eq_true_iff.mp good
    obtain ⟨rfl, -⟩ := splitLast?_eq_some_iff.mp outer
    obtain ⟨rfl, bare⟩ := splitLast?_eq_some_iff.mp inner
    obtain ⟨value, stated, object⟩ := Option.bind_eq_some_iff.mp told
    rw [Json.members?_eq_some_iff] at object
    rw [value?_eq_some_iff] at read stated
    exact ⟨head, body, header, ⟨by rw [eq_of_beq same], bare⟩, read, accepts, object ▸ stated⟩
  · rintro ⟨head, body, header, ⟨rfl, bare⟩, read, accepts, stated⟩
    have outer := splitLast?_append (head ++ '.' :: body)
      (point_not_mem_signature secret (head ++ '.' :: body))
    have inner := splitLast?_append head bare
    rw [← value?_eq_some_iff] at read stated
    have told : members? body = some members := by
      rw [members?, stated]
      exact Json.members?_eq_some_iff.mpr rfl
    simp only [signed?, Option.bind_eq_bind, outer, Option.bind_some, inner, read, accepts,
      Bool.true_and, beq_self_eq_true, if_true, told]

/-- The token bears the signature of the secret, and its parts are an accepted header and claims with
values of their types. -/
structure WellSigned (token : String) (secret : List UInt8) (members : List (String × Json))
    (claims : Claims) : Prop where
  parts : ∃ head body header, SignedAs token.toList secret head body ∧ Denotes head header ∧
    NamesHS256 header ∧ acceptsHeader header = true ∧ Denotes body (.ofMembers members)
  states : claims.StatedBy members

theorem wellSigned_iff {token : String} {secret : List UInt8} {members : List (String × Json)}
    {claims : Claims} : WellSigned token secret members claims ↔
      signed? token.toList secret = some members ∧ claims? members = some claims := by
  rw [signed?_eq_some_iff, claims?_eq_some_iff]
  constructor
  · rintro ⟨⟨head, body, header, signed, read, -, accepts, stated⟩, states⟩
    exact ⟨⟨head, body, header, signed, read, accepts, stated⟩, states⟩
  · rintro ⟨⟨head, body, header, signed, read, accepts, stated⟩, states⟩
    exact ⟨⟨head, body, header, signed, read, namesHS256_of_accepts accepts, accepts, stated⟩, states⟩

/-- The claims name an audience: in a text or a list of texts. -/
def NamesAudience (members : List (String × Json)) : Prop :=
  ∃ value ∈ Json.valuesOf members "aud", value.isText = true ∨ value.isTexts = true

theorem hasAudience_iff {members : List (String × Json)} :
    hasAudience members = true ↔ NamesAudience members := by
  simp [hasAudience, NamesAudience]

/-! ## Answers -/

section Answers

variable {token : String} {secret : List UInt8} {members members' : List (String × Json)}
  {claims claims' : Claims} {now : Timestamp}

theorem WellSigned.unique (signed : WellSigned token secret members claims)
    (signed' : WellSigned token secret members' claims') : members' = members ∧ claims' = claims := by
  obtain ⟨read, stated⟩ := wellSigned_iff.mp signed
  obtain ⟨read', stated'⟩ := wellSigned_iff.mp signed'
  obtain rfl := Option.some.inj (read'.symm.trans read)
  exact ⟨rfl, Option.some.inj (stated'.symm.trans stated)⟩

/-- What is said of some claims that a token is well-signed with is said of these. -/
theorem WellSigned.exists_iff (signed : WellSigned token secret members claims)
    (P : List (String × Json) → Claims → Prop) :
    (∃ members claims, WellSigned token secret members claims ∧ P members claims) ↔
      P members claims := by
  constructor
  · rintro ⟨members', claims', signed', told⟩
    obtain ⟨rfl, rfl⟩ := signed.unique signed'
    exact told
  · intro told
    exact ⟨members, claims, signed, told⟩

theorem WellSigned.forall_iff (signed : WellSigned token secret members claims)
    (P : List (String × Json) → Claims → Prop) :
    (∀ members claims, WellSigned token secret members claims → P members claims) ↔
      P members claims := by
  constructor
  · intro told
    exact told members claims signed
  · intro told members' claims' signed'
    obtain ⟨rfl, rfl⟩ := signed.unique signed'
    exact told

theorem validate_unsigned (other : ∀ members claims, ¬ WellSigned token secret members claims) :
    validate token secret now = .error .invalid := by
  unfold validate
  cases read : signed? token.toList secret with
  | none => rfl
  | some members =>
    cases stated : claims? members with
    | none => simp [stated]
    | some claims => exact absurd (wellSigned_iff.mpr ⟨read, stated⟩) (other members claims)

/-- The user in a subject. -/
def userIn? (claims : Claims) : Except Fault Int :=
  match Text.Integer.signed64 claims.subject.toList with
  | .ok user => .ok user
  | .error _ => .error .invalid

theorem userIn?_eq_ok_iff {user : Int} : userIn? claims = .ok user ↔
    Text.Integer.Names claims.subject.toList user ∧ Text.Integer.IsSigned64 user := by
  rw [← Text.Integer.signed64_eq_ok_iff, userIn?]
  cases Text.Integer.signed64 claims.subject.toList <;> simp

theorem userIn?_ne_expired : userIn? claims ≠ .error .expired := by
  rw [userIn?]
  cases Text.Integer.signed64 claims.subject.toList <;> simp

theorem userIn?_eq_invalid_iff : userIn? claims = .error .invalid ↔
    ∀ user, Text.Integer.Names claims.subject.toList user → ¬ Text.Integer.IsSigned64 user := by
  cases found : userIn? claims with
  | ok user =>
    obtain ⟨names, range⟩ := userIn?_eq_ok_iff.mp found
    exact ⟨(by cases ·), fun none => absurd range (none user names)⟩
  | error fault =>
    cases fault with
    | expired => exact absurd found userIn?_ne_expired
    | invalid =>
      refine ⟨fun _ user names range => ?_, fun _ => rfl⟩
      rw [userIn?_eq_ok_iff.mpr ⟨names, range⟩] at found
      cases found

namespace WellSigned

/-- The end of a well-signed token is looked at first, then the audience, then the user. -/
theorem validate_eq (signed : WellSigned token secret members claims) :
    validate token secret now =
      if claims.expires < 0 then .error .invalid
      else if claims.expires < now.seconds - 60 then .error .expired
      else if hasAudience members then .error .invalid
      else userIn? claims := by
  obtain ⟨read, stated⟩ := wellSigned_iff.mp signed
  rw [validate, read]
  simp only [stated]
  rfl

theorem ok_iff (signed : WellSigned token secret members claims) {user : Int} :
    validate token secret now = .ok user ↔ 0 ≤ claims.expires ∧
      now.seconds - 60 ≤ claims.expires ∧ ¬ NamesAudience members ∧
      Text.Integer.Names claims.subject.toList user ∧ Text.Integer.IsSigned64 user := by
  rw [signed.validate_eq, ← hasAudience_iff, ← userIn?_eq_ok_iff, ← Int.not_lt, ← Int.not_lt]
  split <;> rename_i early
  · simp [early]
  · split <;> rename_i past
    · simp [past]
    · split <;> rename_i audience <;> simp [early, past, audience]

theorem expired_iff (signed : WellSigned token secret members claims) :
    validate token secret now = .error .expired ↔
      0 ≤ claims.expires ∧ claims.expires < now.seconds - 60 := by
  rw [signed.validate_eq, ← Int.not_lt]
  split <;> rename_i early
  · simp [early]
  · split <;> rename_i past
    · simp [early, past]
    · split <;> simp [past, userIn?_ne_expired]

theorem invalid_iff (signed : WellSigned token secret members claims) :
    validate token secret now = .error .invalid ↔ claims.expires < 0 ∨
      now.seconds - 60 ≤ claims.expires ∧ (NamesAudience members ∨
        ∀ user, Text.Integer.Names claims.subject.toList user →
          ¬ Text.Integer.IsSigned64 user) := by
  rw [signed.validate_eq, ← hasAudience_iff, ← userIn?_eq_invalid_iff, ← Int.not_lt]
  split <;> rename_i early
  · simp [early]
  · split <;> rename_i past
    · simp [early, past]
    · split <;> rename_i audience <;> simp [early, past, audience]

end WellSigned

end Answers

/-- What is known of a token from the answer to it. A token is accepted for a user just if it is
well-signed, not past its end by more than a minute, meant for no audience, and made for that user.
It is refused as expired just if it is well-signed and is past its end by more than a minute. It is
refused as invalid in every other case, and so is whatever does not bear the signature of the secret,
which tells nothing else of it. -/
theorem validate_sound (token : String) (secret : List UInt8) (now : Timestamp) :
    (∀ user, validate token secret now = .ok user ↔
      ∃ members claims, WellSigned token secret members claims ∧ 0 ≤ claims.expires ∧
        now.seconds - 60 ≤ claims.expires ∧ ¬ NamesAudience members ∧
        Text.Integer.Names claims.subject.toList user ∧ Text.Integer.IsSigned64 user) ∧
    (validate token secret now = .error .expired ↔
      ∃ members claims, WellSigned token secret members claims ∧ 0 ≤ claims.expires ∧
        claims.expires < now.seconds - 60) ∧
    (validate token secret now = .error .invalid ↔
      ∀ members claims, WellSigned token secret members claims → claims.expires < 0 ∨
        now.seconds - 60 ≤ claims.expires ∧ (NamesAudience members ∨
          ∀ user, Text.Integer.Names claims.subject.toList user →
            ¬ Text.Integer.IsSigned64 user)) ∧
    (validate token secret now = .error .invalid ∨
      ∃ head body, SignedAs token.toList secret head body) := by
  by_cases known : ∃ members claims, WellSigned token secret members claims
  · obtain ⟨members, claims, signed⟩ := known
    refine ⟨fun user => ?_, ?_, ?_, .inr ?_⟩
    · rw [signed.exists_iff]
      exact signed.ok_iff
    · rw [signed.exists_iff fun _ c => 0 ≤ c.expires ∧ c.expires < now.seconds - 60]
      exact signed.expired_iff
    · rw [signed.forall_iff]
      exact signed.invalid_iff
    · obtain ⟨head, body, header, signed, -⟩ := signed.parts
      exact ⟨head, body, signed⟩
  · have other : ∀ members claims, ¬ WellSigned token secret members claims :=
      fun members claims signed => known ⟨members, claims, signed⟩
    have invalid : validate token secret now = .error .invalid := validate_unsigned other
    refine ⟨fun user => ?_, ?_, ?_, .inl invalid⟩
    · simp [invalid, other]
    · simp [invalid, other]
    · simp [invalid, other]

/-- A header need not be an object: a token whose header is the list of its values is accepted. -/
theorem listed_header_accepted :
    ¬ ∀ (token : String) (secret : List UInt8) (now : Timestamp) (user : Int),
      validate token secret now = .ok user →
        ∃ head body mark members, token.toList = (head ++ '.' :: body) ++ '.' :: mark ∧
          '.' ∉ body ∧ '.' ∉ mark ∧ Denotes head (.ofMembers members) := by
  intro always
  let claims : Claims := ⟨toString (42 : Int), 4102444800, 1⟩
  let values : List Json := [.text "JWT", .text "HS256"] ++ List.replicate 8 .null
  let secret := Text.Utf8.encodeList "test-secret".toList
  let head := part (.list values)
  let body := part claims.toJson
  let token := (head ++ '.' :: body) ++ '.' :: signature secret (head ++ '.' :: body)
  have listed : Denotes head (.list values) := ⟨_, rfl, rfl⟩
  have stated : Denotes body (.ofMembers claims.members) :=
    value?_eq_some_iff.mp (value?_part (claims.flat (by decide) (by decide)))
  have signed : WellSigned (String.ofList token) secret claims.members claims := by
    refine ⟨⟨head, body, .list values, ⟨String.toList_ofList, point_not_mem_encode _⟩, listed,
      .listed rfl .text, rfl, stated⟩, claims?_eq_some_iff.mp ?_⟩
    exact claims.claims?_members (by decide) (by decide)
  have accepted : validate (String.ofList token) secret ⟨0⟩ = .ok 42 := by
    rw [signed.validate_eq, if_neg (by decide), if_neg (by decide), if_neg (by decide)]
    exact userIn?_eq_ok_iff.mpr
      (Text.Integer.signed64_eq_ok_iff.mp (Text.Integer.signed64_toString (by decide)))
  obtain ⟨head', body', mark, members, joined, bareBody, bareMark, object⟩ :=
    always _ _ _ _ accepted
  obtain ⟨rfl, -, -⟩ := parted_unique (String.toList_ofList.symm.trans joined)
    (point_not_mem_encode _) (point_not_mem_signature _ _) bareBody bareMark
  cases listed.unique object

end AccessToken

end SessionKeeper
