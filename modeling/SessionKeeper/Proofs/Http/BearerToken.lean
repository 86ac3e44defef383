import Mathlib.Data.List.TakeWhile
import SessionKeeper.Http.Routes

/-!
What a request has to carry to show who sent it. The token is found exactly where the first header
of the name `authorization` holds nothing but visible text, names the scheme, and has something else
than blanks behind it (`bearerToken?_eq_some_iff`), and it is that, without the blanks around it.

`Request.Bears` says so without the reader: it is a structure whose fields are the parts of the
header, and the token that a request bears is one at most (`Request.Bears.unique`).

Correspondence: `bearer_token` ↔ `Http.bearerToken?`. A name that occurs twice counts by its first
header, as it does in a map of headers.
-/

namespace SessionKeeper

/-! ## Blanks -/

namespace Text

/-- `inner` is `cs` without the blanks at both its ends. -/
structure Trims (cs inner : List Char) : Prop where
  around : ∃ before after, cs = before ++ (inner ++ after) ∧
    (∀ c ∈ before, isBlank c = true) ∧ ∀ c ∈ after, isBlank c = true
  first : ∀ c, inner.head? = some c → isBlank c = false
  last : ∀ c, inner.getLast? = some c → isBlank c = false

theorem dropWhile_eq_iff {p : Char → Bool} {cs rest : List Char} :
    cs.dropWhile p = rest ↔ ∃ before, cs = before ++ rest ∧ (∀ c ∈ before, p c = true) ∧
      ∀ c, rest.head? = some c → p c = false := by
  constructor
  · rintro rfl
    refine ⟨cs.takeWhile p, List.takeWhile_append_dropWhile.symm,
      fun _ => List.mem_takeWhile_imp, fun c first => ?_⟩
    have stops := List.head?_dropWhile_not p cs
    rwa [first] at stops
  · rintro ⟨before, rfl, dropped, stops⟩
    rw [List.dropWhile_append_of_pos dropped]
    cases rest with
    | nil => rfl
    | cons c rest => rw [List.dropWhile_cons_of_neg (by simp [stops c rfl])]

theorem trimList_trims (cs : List Char) : Trims cs (trimList cs) := by
  obtain ⟨before, split, blank, first⟩ :=
    dropWhile_eq_iff.mp (Eq.refl (cs.dropWhile isBlank))
  obtain ⟨after, split', blank', last⟩ :=
    dropWhile_eq_iff.mp (Eq.refl ((cs.dropWhile isBlank).reverse.dropWhile isBlank))
  have parted : cs.dropWhile isBlank = trimList cs ++ after.reverse := by
    rw [trimList, ← List.reverse_append, ← split', List.reverse_reverse]
  refine ⟨⟨before, after.reverse, parted ▸ split, blank, by simpa using blank'⟩, fun c hc => ?_,
    fun c hc => ?_⟩
  · refine first c ?_
    rw [parted, List.head?_append, hc]
    rfl
  · rw [trimList, List.getLast?_reverse] at hc
    exact last c hc

theorem Trims.unique {cs inner : List Char} (trims : Trims cs inner) : trimList cs = inner := by
  obtain ⟨before, after, rfl, blank, blank'⟩ := trims.around
  cases hinner : inner with
  | nil =>
    have all : (before ++ ([] ++ after)).dropWhile isBlank = [] := by
      rw [List.dropWhile_eq_nil_iff]
      intro c mem
      exact (List.mem_append.mp mem).elim (blank c) (blank' c)
    rw [trimList, all]
    rfl
  | cons c rest =>
    subst hinner
    have started : (before ++ (c :: rest ++ after)).dropWhile isBlank = c :: rest ++ after :=
      dropWhile_eq_iff.mpr ⟨before, rfl, blank, trims.first⟩
    have ended : (c :: rest ++ after).reverse.dropWhile isBlank = (c :: rest).reverse := by
      refine dropWhile_eq_iff.mpr
        ⟨after.reverse, List.reverse_append, by simpa using blank', fun d hd => ?_⟩
      rw [List.head?_reverse] at hd
      exact trims.last d hd
    rw [trimList, started, ended, List.reverse_reverse]

end Text

/-! ## Headers -/

namespace Http

namespace Request

/-- A byte that a header may show: visible ASCII, a space or a tab. -/
def IsVisible (b : UInt8) : Prop := 0x20 ≤ b ∧ b < 0x7F ∨ b = 0x09

/-- The first header of a name, which is given in lower case, shows `text`. -/
def Shows (r : Request) (name : String) (text : List Char) : Prop :=
  ∃ earlier header later, r.headers = earlier ++ header :: later ∧
    header.1.map Char.toLower = name ∧ (∀ other ∈ earlier, other.1.map Char.toLower ≠ name) ∧
    (∀ b ∈ header.2, IsVisible b) ∧ text = header.2.map fun b => Char.ofNat b.toNat

theorem headerText?_eq_some_iff {value : List UInt8} {text : List Char} :
    headerText? value = some text ↔
      (∀ b ∈ value, IsVisible b) ∧ text = value.map fun b => Char.ofNat b.toNat := by
  have visible : (value.all fun b => (0x20 ≤ b && b < 0x7F) || b == 0x09) = true ↔
      ∀ b ∈ value, IsVisible b := by
    simp [IsVisible]
  unfold headerText?
  rw [← visible]
  split <;> simp [*, eq_comm]

theorem header?_eq_some_iff {r : Request} {name : String} {text : List Char} :
    r.header? name = some text ↔ r.Shows name text := by
  simp only [header?, Option.bind_eq_some_iff, List.find?_eq_some_iff_append,
    headerText?_eq_some_iff, beq_iff_eq, Bool.not_eq_true', beq_eq_false_iff_ne]
  constructor
  · rintro ⟨header, ⟨named, earlier, later, split, other⟩, visible, rfl⟩
    exact ⟨earlier, header, later, split, named, other, visible, rfl⟩
  · rintro ⟨earlier, header, later, split, named, other, visible, rfl⟩
    exact ⟨header, ⟨named, earlier, later, split, other⟩, visible, rfl⟩

/-- The request bears a token: its first authorization header shows the scheme and, with blanks
around it or not, the token. -/
structure Bears (r : Request) (token : String) : Prop where
  shown : ∃ rest, r.Shows "authorization" ("Bearer ".toList ++ rest) ∧
    Text.Trims rest token.toList
  nonempty : token ≠ ""

end Request

theorem bearerToken?_eq_some_iff {r : Request} {token : String} :
    bearerToken? r = some token ↔ r.Bears token := by
  unfold bearerToken?
  rw [Option.bind_eq_some_iff]
  constructor
  · rintro ⟨value, shown, read⟩
    by_cases scheme : "Bearer ".toList.isPrefixOf value = true
    · rw [if_pos scheme] at read
      obtain ⟨rest, rfl⟩ := List.isPrefixOf_iff_prefix.mp scheme
      rw [List.drop_left] at read
      by_cases empty : (Text.trimList rest).isEmpty = true
      · simp [empty] at read
      · simp only [empty, Bool.false_eq_true, if_false, Option.some.injEq] at read
        subst read
        refine ⟨⟨rest, Request.header?_eq_some_iff.mp shown, ?_⟩, fun none => empty ?_⟩
        · rw [String.toList_ofList]
          exact Text.trimList_trims rest
        · rw [← String.toList_ofList (l := Text.trimList rest), none]
          rfl
    · rw [if_neg scheme] at read
      cases read
  · rintro ⟨⟨rest, shown, trims⟩, nonempty⟩
    refine ⟨_, Request.header?_eq_some_iff.mpr shown, ?_⟩
    have scheme : "Bearer ".toList.isPrefixOf ("Bearer ".toList ++ rest) = true :=
      List.isPrefixOf_iff_prefix.mpr (List.prefix_append _ _)
    have token : ¬ token.toList.isEmpty = true := by simpa using nonempty
    rw [if_pos scheme, List.drop_left, trims.unique, if_neg token, String.ofList_toList]

theorem Request.Bears.unique {r : Request} {token other : String} (bears : r.Bears token)
    (bears' : r.Bears other) : token = other :=
  Option.some.inj ((bearerToken?_eq_some_iff.mpr bears).symm.trans
    (bearerToken?_eq_some_iff.mpr bears'))

end Http

end SessionKeeper
