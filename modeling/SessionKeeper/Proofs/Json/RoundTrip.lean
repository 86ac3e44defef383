import SessionKeeper.Json.Shape
import SessionKeeper.Json.Writer

/-!
What is written is read back: every text, every whole number that fits into 64 bits, and every
object whose members are such values (`value?_ofMembers`). Reading goes byte by byte, so each piece
of a written value is followed from the mode in which the reading meets it to the mode in which it
leaves it (`Reads`); pieces that follow each other are then put together (`Reads.append`).

A text is followed character by character (`reads_char`): one that needs no escape stands for
itself, the others are written with an escape of two characters or of six, or as their bytes. A
number is followed digit by digit (`reads_digits`), each of which multiplies by ten and adds.

The claims of an access token are such an object, which is the use that is made of this.
-/

namespace SessionKeeper.Json

open Text.Utf8 (encodeChar encodeList)

/-! ## Pieces -/

/-- Met in `mode`, the characters complete some tokens, and the reading goes on in `mode'`. -/
def Reads (mode : Mode) (cs : List Char) (tokens : List Token) (mode' : Mode) : Prop :=
  ∀ rest, tokensFrom mode (encodeList cs ++ rest) = tokens ++ tokensFrom mode' rest

theorem Reads.append {mode mode₁ mode' : Mode} {cs ds : List Char} {ts us : List Token}
    (h : Reads mode cs ts mode₁) (h' : Reads mode₁ ds us mode') :
    Reads mode (cs ++ ds) (ts ++ us) mode' := by
  intro rest
  have split : encodeList (cs ++ ds) = encodeList cs ++ encodeList ds := List.flatMap_append
  rw [split, List.append_assoc, h, h', List.append_assoc]

theorem Reads.char {mode mode' : Mode} {c : Char} {tokens : List Token} (ascii : c.toNat < 0x80)
    (h : step mode c.toNat.toUInt8 = (tokens, some mode')) : Reads mode [c] tokens mode' := by
  intro rest
  have byte : encodeList [c] = [c.toNat.toUInt8] := by simp [encodeList, encodeChar, ascii]
  rw [byte, List.singleton_append, tokensFrom, h]

theorem Reads.cons {mode mode' : Mode} {c : Char} {cs : List Char} {ts : List Token}
    (mode₁ : Mode) (ascii : c.toNat < 0x80) (h : step mode c.toNat.toUInt8 = ([], some mode₁))
    (h' : Reads mode₁ cs ts mode') : Reads mode (c :: cs) ts mode' :=
  (Reads.char ascii h).append h'

/-! ## Texts -/

/-- The content of a text of which these characters are read. -/
def written (cs : List Char) : Content := { bytes := (encodeList cs).reverse }

theorem written_addByte {c : Char} (cs : List Char) (ascii : c.toNat < 0x80) :
    (written cs).addByte c.toNat.toUInt8 = written (cs ++ [c]) := by
  simp [written, Content.addByte, encodeList, encodeChar, ascii]

theorem encodeChar_beyond {c : Char} (beyond : ¬ c.toNat < 0x80) :
    ∀ b ∈ encodeChar c, 0x80 ≤ b.toNat := by
  have bound := Text.Utf8.toNat_lt c
  have tails : ∀ bits, 0x80 ≤ (Text.Utf8.tail bits).toNat := by
    intro bits
    have small : 0x80 + bits % 64 < 256 := by omega
    rw [Text.Utf8.tail, Text.Utf8.toNat_toUInt8 small]
    omega
  have heads : ∀ n, 0x80 ≤ n → n < 256 → 0x80 ≤ n.toUInt8.toNat := by
    intro n least small
    rwa [Text.Utf8.toNat_toUInt8 small]
  unfold encodeChar
  simp only [beyond, if_false]
  split
  · simp only [List.mem_cons, List.not_mem_nil, or_false]
    rintro b (rfl | rfl)
    · exact heads _ (by omega) (by omega)
    · exact tails _
  · split
    · simp only [List.mem_cons, List.not_mem_nil, or_false]
      rintro b (rfl | rfl | rfl)
      · exact heads _ (by omega) (by omega)
      · exact tails _
      · exact tails _
    · simp only [List.mem_cons, List.not_mem_nil, or_false]
      rintro b (rfl | rfl | rfl | rfl)
      · exact heads _ (by omega) (by omega)
      · exact tails _
      · exact tails _
      · exact tails _

/-- Bytes that are neither a quotation mark nor a backslash nor a control character are content. -/
theorem tokensFrom_content (bytes rest : List UInt8) (content : Content)
    (plain : ∀ b ∈ bytes, b ≠ 0x22 ∧ b ≠ 0x5C ∧ ¬ b < 0x20) :
    tokensFrom (.text content) (bytes ++ rest) =
      tokensFrom (.text (bytes.foldl Content.addByte content)) rest := by
  induction bytes generalizing content with
  | nil => rfl
  | cons b bytes ih =>
    obtain ⟨quote, escape, control⟩ := plain b List.mem_cons_self
    have stepped : step (.text content) b = ([], some (.text (content.addByte b))) := by
      simp [step, quote, escape, control]
    rw [List.cons_append, tokensFrom, stepped]
    exact ih _ fun b mem => plain b (List.mem_cons_of_mem _ mem)

theorem foldl_addByte (bytes : List UInt8) (cs : List Char) :
    bytes.foldl Content.addByte (written cs) =
      { written cs with bytes := bytes.reverse ++ (written cs).bytes } := by
  have general : ∀ (bytes read : List UInt8),
      bytes.foldl Content.addByte { bytes := read } = { bytes := bytes.reverse ++ read } := by
    intro bytes
    induction bytes with
    | nil => exact fun _ => rfl
    | cons b bytes ih =>
      intro read
      rw [List.foldl_cons, List.reverse_cons, List.append_assoc]
      exact ih (b :: read)
  exact general bytes _

theorem written_append (cs : List Char) (c : Char) :
    ({ written cs with bytes := (encodeChar c).reverse ++ (written cs).bytes } : Content) =
      written (cs ++ [c]) := by
  simp [written, encodeList]

theorem reads_plain (cs : List Char) {c : Char} (quote : c ≠ '"') (escape : c ≠ '\\')
    (control : ¬ c.toNat < 0x20) : Reads (.text (written cs)) [c] [] (.text (written (cs ++ [c]))) := by
  intro rest
  have plain : ∀ b ∈ encodeChar c, b ≠ 0x22 ∧ b ≠ 0x5C ∧ ¬ b < 0x20 := by
    by_cases ascii : c.toNat < 0x80
    · have byte : encodeChar c = [c.toNat.toUInt8] := by simp [encodeChar, ascii]
      have value : c.toNat.toUInt8.toNat = c.toNat := Text.Utf8.toNat_toUInt8 (by omega)
      rw [byte]
      simp only [List.mem_singleton, forall_eq]
      refine ⟨fun same => quote ?_, fun same => escape ?_, fun less => control ?_⟩
      · rw [same] at value
        exact Char.toNat_inj.mp value.symm
      · rw [same] at value
        exact Char.toNat_inj.mp value.symm
      · rw [UInt8.lt_iff_toNat_lt, value] at less
        exact less
    · intro b mem
      have beyond := encodeChar_beyond ascii b mem
      refine ⟨?_, ?_, fun less => ?_⟩
      · rintro rfl
        exact absurd beyond (by decide)
      · rintro rfl
        exact absurd beyond (by decide)
      · rw [UInt8.lt_iff_toNat_lt] at less
        have : (0x20 : UInt8).toNat = 0x20 := rfl
        omega
  have bytes : encodeList [c] = encodeChar c := by simp [encodeList]
  rw [bytes, tokensFrom_content _ _ _ plain, foldl_addByte, written_append]
  rfl

theorem hexDigit?_digitChar {n : Nat} (h : n < 16) :
    (Nat.digitChar n).toNat < 0x80 ∧ hexDigit? (Nat.digitChar n).toNat.toUInt8 = some n := by
  have all : ∀ k : Fin 16, (Nat.digitChar k.val).toNat < 0x80 ∧
      hexDigit? (Nat.digitChar k.val).toNat.toUInt8 = some k.val := by decide
  exact all ⟨n, h⟩

/-- A digit of an escape by number, with others to come. -/
theorem reads_unit (content : Content) (value : Nat) {left n : Nat} (more : 1 < left)
    (digit : n < 16) : Reads (.unit content value left) [Nat.digitChar n] []
      (.unit content (value * 16 + n) (left - 1)) := by
  obtain ⟨ascii, read⟩ := hexDigit?_digitChar digit
  refine .char ascii ?_
  simp [step, read, more]

/-- A control character without a name is written by number. -/
theorem reads_numbered (cs : List Char) {c : Char} (control : c.toNat < 0x20) :
    Reads (.text (written cs))
      ['\\', 'u', '0', '0', Nat.digitChar (c.toNat / 16), Nat.digitChar (c.toNat % 16)] []
      (.text (written (cs ++ [c]))) := by
  refine .cons (.escape (written cs)) (by decide) rfl ?_
  refine .cons (.unit (written cs) 0 4) (by decide) rfl ?_
  refine (reads_unit _ 0 (n := 0) (by decide) (by decide)).append ?_
  refine (reads_unit _ 0 (n := 0) (by decide) (by decide)).append ?_
  refine (reads_unit _ 0 (n := c.toNat / 16) (by decide) (by omega)).append ?_
  obtain ⟨ascii, read⟩ := hexDigit?_digitChar (n := c.toNat % 16) (by omega)
  refine .char ascii ?_
  have value : (0 * 16 + c.toNat / 16) * 16 + c.toNat % 16 = c.toNat := by omega
  have added : (written cs).addUnit c.toNat = written (cs ++ [c]) := by
    have low : ¬ (0xDC00 ≤ c.toNat ∧ c.toNat ≤ 0xDFFF) := by omega
    have high : ¬ (0xD800 ≤ c.toNat ∧ c.toNat ≤ 0xDBFF) := by omega
    rw [← written_append]
    simp [Content.addUnit, Content.addChar, written, low, high]
  simp only [step, read, value, added]
  rfl

theorem reads_char (cs : List Char) (c : Char) :
    Reads (.text (written cs)) (writeChar c) [] (.text (written (cs ++ [c]))) := by
  -- An escape by name is a backslash and one more character.
  have named : ∀ {e d : Char}, e.toNat < 0x80 → d.toNat < 0x80 →
      step (.escape (written cs)) e.toNat.toUInt8 =
        ([], some (.text ((written cs).addByte d.toNat.toUInt8))) →
      Reads (.text (written cs)) ['\\', e] [] (.text (written (cs ++ [d]))) := by
    intro e d ascii ascii' stepped
    refine .cons (.escape (written cs)) (by decide) rfl (.char ascii ?_)
    rw [stepped, written_addByte cs ascii']
  unfold writeChar
  split
  · subst_vars
    exact named (by decide) (by decide) rfl
  split
  · subst_vars
    exact named (by decide) (by decide) rfl
  split
  · subst_vars
    exact named (by decide) (by decide) rfl
  split
  · subst_vars
    exact named (by decide) (by decide) rfl
  split
  · subst_vars
    exact named (by decide) (by decide) rfl
  split
  · subst_vars
    exact named (by decide) (by decide) rfl
  split
  · subst_vars
    exact named (by decide) (by decide) rfl
  split
  · rename_i control
    exact reads_numbered cs control
  · rename_i quote escape _ _ _ _ _ control
    exact reads_plain cs quote escape control

theorem reads_text (s : String) : Reads .between (writeText s) [.text s] .between := by
  have chars : ∀ cs done : List Char, Reads (.text (written done)) (cs.flatMap writeChar) []
      (.text (written (done ++ cs))) := by
    intro cs
    induction cs with
    | nil =>
      intro done rest
      rw [List.append_nil]
      rfl
    | cons c cs ih =>
      intro done
      rw [List.flatMap_cons, List.append_cons]
      exact (reads_char done c).append (ih _)
  have token : (written s.toList).token = .text s := by
    simp [Content.token, written, Text.Utf8.decode?_encodeList]
  refine .cons (.text (written [])) (by decide) rfl ?_
  refine (chars s.toList []).append (.char (by decide) ?_)
  rw [List.nil_append, ← token]
  rfl

/-! ## Whole numbers -/

/-- A whole number of which the digits are read. -/
def wholeNumeral (negative : Bool) (digits : Nat) : Numeral := { negative, digits, integral := true }

theorem withDigit?_wholeNumeral (negative : Bool) {digits digit : Nat}
    (fits : digits * 10 + digit ≤ Numeral.maxDigits) :
    (wholeNumeral negative digits).withDigit? digit =
      some (wholeNumeral negative (digits * 10 + digit)) := if_pos fits

theorem addWhole_wholeNumeral (negative : Bool) {n : Nat} {b : UInt8}
    (fits : n * 10 + digit b ≤ Numeral.maxDigits) :
    addWhole (wholeNumeral negative n) b = .whole (wholeNumeral negative (n * 10 + digit b)) := by
  unfold addWhole
  rw [withDigit?_wholeNumeral negative fits]

theorem digit_digitChar {n : Nat} (h : n < 10) :
    (Nat.digitChar n).toNat < 0x80 ∧ isDigit (Nat.digitChar n).toNat.toUInt8 = true ∧
      digit (Nat.digitChar n).toNat.toUInt8 = n ∧
      ((Nat.digitChar n).toNat.toUInt8 = 0x30 ↔ n = 0) := by
  have all : ∀ k : Fin 10, (Nat.digitChar k.val).toNat < 0x80 ∧
      isDigit (Nat.digitChar k.val).toNat.toUInt8 = true ∧
      digit (Nat.digitChar k.val).toNat.toUInt8 = k.val ∧
      ((Nat.digitChar k.val).toNat.toUInt8 = 0x30 ↔ k.val = 0) := by decide
  exact all ⟨n, h⟩

/-- Where the reading of a number starts. -/
def numberStart (negative : Bool) : Mode := if negative then .minus else .between

theorem step_numberStart (negative : Bool) {b : UInt8} (h : isDigit b = true) :
    step (numberStart negative) b = ([], some (firstDigit negative b)) := by
  cases negative with
  | true => simp [numberStart, step, h]
  | false =>
    have least : 0x30 ≤ b.toNat := by
      rw [isDigit, Bool.and_eq_true, decide_eq_true_eq, UInt8.le_iff_toNat_le] at h
      exact h.1
    have space : isSpace b = false := by
      simp only [isSpace, Bool.or_eq_false_iff, beq_eq_false_iff_ne]
      refine ⟨⟨⟨?_, ?_⟩, ?_⟩, ?_⟩ <;> (rintro rfl; exact absurd least (by decide))
    simp [numberStart, step, stepBetween, h, space]

theorem reads_digits (negative : Bool) {n : Nat} (positive : 0 < n) (fits : n ≤ Numeral.maxDigits) :
    Reads (numberStart negative) (Nat.toDigits 10 n) [] (.whole (wholeNumeral negative n)) := by
  induction n using Nat.strongRecOn with
  | ind n ih =>
    by_cases small : n < 10
    · obtain ⟨ascii, isDigit, value, zero⟩ := digit_digitChar small
      rw [Nat.toDigits_of_lt_base small]
      refine .char ascii ?_
      rw [step_numberStart negative isDigit, firstDigit, value]
      have nonzero : ((Nat.digitChar n).toNat.toUInt8 == 0x30) = false := by
        rw [beq_eq_false_iff_ne]
        intro same
        exact absurd (zero.mp same) (by omega)
      rw [nonzero]
      rfl
    · obtain ⟨ascii, isDigit, value, -⟩ := digit_digitChar (Nat.mod_lt n (by decide : 0 < 10))
      rw [Nat.toDigits_of_base_le (by decide) (by omega)]
      refine (ih (n / 10) (by omega) (by omega) (by omega)).append (.char ascii ?_)
      have sum : n / 10 * 10 + n % 10 = n := by omega
      have added := addWhole_wholeNumeral negative (n := n / 10)
        (b := (Nat.digitChar (n % 10)).toNat.toUInt8) (by rwa [value, sum])
      rw [step, if_pos isDigit, added, value, sum]

theorem write_ofInt (n : Int) :
    (ofInt n).write = (if n < 0 then ['-'] else []) ++ Nat.toDigits 10 n.natAbs := by
  by_cases negative : n < 0 <;> simp [ofInt, write, Numeral.write, Numeral.exponent, negative]

/-- The characters behind a value in an object, and the tokens that they are. -/
inductive Closes : Char → Token → Prop
  | comma : Closes ',' .comma
  | brace : Closes '\x7d' .closeObject

/-- An integer, with what stands behind it, is a number and that. -/
theorem reads_int {n : Int} (fits : n.natAbs ≤ Numeral.maxDigits) {c : Char} {closing : Token}
    (closes : Closes c closing) : Reads .between ((ofInt n).write ++ [c])
      [.number (wholeNumeral (n < 0) n.natAbs), closing] .between := by
  have signed : Reads .between (if n < 0 then ['-'] else []) [] (numberStart (n < 0)) := by
    by_cases negative : n < 0
    · rw [if_pos negative, decide_eq_true negative]
      exact .char (by decide) rfl
    · rw [if_neg negative, decide_eq_false negative]
      exact fun rest => rfl
  rw [write_ofInt, List.append_assoc]
  refine signed.append ?_
  rcases Nat.eq_zero_or_pos n.natAbs with zero | positive
  · obtain rfl : n = 0 := Int.natAbs_eq_zero.mp zero
    refine .cons (.zero (wholeNumeral false 0)) (by decide) rfl ?_
    cases closes with
    | comma => exact .char (by decide) rfl
    | brace => exact .char (by decide) rfl
  · refine (reads_digits _ positive fits).append ?_
    cases closes with
    | comma => exact .char (by decide) rfl
    | brace => exact .char (by decide) rfl

/-! ## Objects -/

/-- A text, or a whole number that fits. -/
inductive Flat : Json → Prop
  | text (s : String) : Flat (.text s)
  | int {n : Int} (fits : n.natAbs ≤ Numeral.maxDigits) : Flat (ofInt n)

/-- The token that such a value is written as. -/
def flatToken : Json → Token
  | .text s => .text s
  | .number n => .number n
  | _ => .malformed

namespace Flat

variable {value : Json}

theorem reads (flat : value.Flat) {c : Char} {closing : Token} (closes : Closes c closing) :
    Reads .between (value.write ++ [c]) [flatToken value, closing] .between := by
  cases flat with
  | text s =>
    refine (reads_text s).append ?_
    cases closes with
    | comma => exact .char (by decide) rfl
    | brace => exact .char (by decide) rfl
  | int fits => exact reads_int fits closes

theorem begin (flat : value.Flat) (frames : List Frame) :
    Progress.begin frames (flatToken value) = .put value frames := by
  cases flat <;> rfl

theorem isWhole (flat : value.Flat) : value.isWhole = true := by
  cases flat <;> rfl

end Flat

/-- The tokens of the members of an object, and of its end. -/
def memberTokens : List (String × Json) → List Token
  | [] => [.closeObject]
  | [(name, value)] => [.text name, .colon, flatToken value, .closeObject]
  | (name, value) :: rest =>
    [.text name, .colon, flatToken value, .comma] ++ memberTokens rest

/-- Members by names that are readable. -/
def named (members : List (String × Json)) : List (Option String × Json) :=
  members.map fun (name, value) => (some name, value)

theorem reads_member {value : Json} (flat : value.Flat) (name : String) {c : Char}
    {closing : Token} (closes : Closes c closing) :
    Reads .between (writeText name ++ ':' :: (value.write ++ [c]))
      [.text name, .colon, flatToken value, closing] .between := by
  refine (reads_text name).append ?_
  have colon : Reads .between [':'] [.colon] .between := .char (by decide) rfl
  exact colon.append (flat.reads closes)

theorem reads_members {members : List (String × Json)} (flat : ∀ m ∈ members, m.2.Flat) :
    Reads .between (writeMembers (named members) ++ ['\x7d']) (memberTokens members) .between := by
  induction members with
  | nil => exact .char (by decide) rfl
  | cons member rest ih =>
    obtain ⟨name, value⟩ := member
    have first := flat _ List.mem_cons_self
    cases rest with
    | nil =>
      have read := reads_member first name .brace
      simpa [named, writeMembers, memberTokens] using read
    | cons member rest =>
      have read := (reads_member first name .comma).append
        (ih fun m mem => flat m (List.mem_cons_of_mem _ mem))
      simpa [named, writeMembers, memberTokens] using read

/-- The members that are still to come make the rest of the object. -/
theorem ofTokensFrom_members {members : List (String × Json)} (flat : ∀ m ∈ members, m.2.Flat)
    (done : List (Option String × Json)) {expect : Expect}
    (expects : expect = .nameOrClose ∨ expect = .name ∧ members ≠ []) :
    Document.ofTokensFrom [.object done none] expect (memberTokens members) =
      ⟨.object (done.reverse ++ named members), false⟩ := by
  induction members generalizing done expect with
  | nil =>
    rcases expects with rfl | ⟨-, none⟩
    · simp [memberTokens, Document.ofTokensFrom, Progress.after, Progress.put, named]
    · exact absurd rfl none
  | cons member rest ih =>
    obtain ⟨name, value⟩ := member
    have begins := (flat _ List.mem_cons_self : value.Flat).begin
    have started : ∀ tokens, Document.ofTokensFrom [.object done none] expect
        (.text name :: .colon :: flatToken value :: tokens) =
        Document.ofTokensFrom [.object ((some name, value) :: done) none] .commaOrClose tokens := by
      intro tokens
      rcases expects with rfl | ⟨rfl, -⟩ <;>
        simp [Document.ofTokensFrom, Progress.after, Progress.named, begins, Progress.put]
    cases rest with
    | nil =>
      rw [memberTokens, started]
      simp [Document.ofTokensFrom, Progress.after, Progress.put, named]
    | cons member rest =>
      have further := ih (fun m mem => flat m (List.mem_cons_of_mem _ mem))
        ((some name, value) :: done) (.inr ⟨rfl, by simp⟩)
      have split : memberTokens ((name, value) :: member :: rest) =
          .text name :: .colon :: flatToken value :: .comma :: memberTokens (member :: rest) := rfl
      rw [split, started]
      simp only [Document.ofTokensFrom, Progress.after]
      rw [further]
      simp [named]

/-- An object whose members are texts and whole numbers is read back from what is written of it. -/
theorem value?_ofMembers {members : List (String × Json)} (flat : ∀ m ∈ members, m.2.Flat) :
    (Document.ofBytes (encodeList (ofMembers members).write)).value? = some (ofMembers members) := by
  have opened : Reads .between (ofMembers members).write (.openObject :: memberTokens members)
      .between := by
    have brace : Reads .between ['\x7b'] [.openObject] .between := .char (by decide) rfl
    exact brace.append (reads_members flat)
  have tokens : tokens (encodeList (ofMembers members).write) =
      .openObject :: memberTokens members := by
    have read := opened []
    rwa [List.append_nil, tokensFrom, finish, List.append_nil] at read
  have whole : (ofMembers members).isWhole = true := by
    have each : ∀ members : List (String × Json), (∀ m ∈ members, m.2.Flat) →
        wholeMembers (named members) = true := by
      intro members flat
      induction members with
      | nil => rfl
      | cons member rest ih =>
        have first := (flat _ List.mem_cons_self).isWhole
        have others := ih fun m mem => flat m (List.mem_cons_of_mem _ mem)
        simp only [named, List.map_cons, wholeMembers, Bool.and_eq_true]
        exact ⟨first, others⟩
    exact each members flat
  have read : Document.ofBytes (encodeList (ofMembers members).write) =
      ⟨ofMembers members, false⟩ := by
    rw [Document.ofBytes, tokens]
    exact ofTokensFrom_members flat [] (.inl rfl)
  simp [read, Document.value?, whole]

end SessionKeeper.Json
