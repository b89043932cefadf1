import Mathlib.Data.List.TakeWhile
import Mathlib.Data.Nat.Digits.Defs
import Storefront.Text.Blank
import Storefront.Text.Digits

/-!
Numerals and the blanks around them. A numeral is read as the number that its digits stand for, and
trimming leaves what stands between the blanks at both ends.
-/

namespace Storefront.Text

variable {c : Char} {digits cs text : List Char} {value n : Nat} {number : Int}

/-- The number that decimal digits stand for, the most significant first. -/
def decimalValue (digits : List Char) : Nat :=
  Nat.ofDigits 10 (digits.reverse.map fun c => c.toNat - '0'.toNat)

/-- One or more decimal digits. -/
structure IsDecimal (digits : List Char) : Prop where
  nonempty : digits ≠ []
  digits : ∀ c ∈ digits, '0' ≤ c ∧ c ≤ '9'

/-- Decimal digits after an optional sign, and the integer that they stand for. -/
inductive IsNumeral : List Char → Int → Prop
  | unsigned {digits : List Char} (decimal : IsDecimal digits) :
      IsNumeral digits (decimalValue digits)
  | plus {digits : List Char} (decimal : IsDecimal digits) :
      IsNumeral ('+' :: digits) (decimalValue digits)
  | minus {digits : List Char} (decimal : IsDecimal digits) :
      IsNumeral ('-' :: digits) (-decimalValue digits)

/-- The text has nothing but blanks before and after it. -/
def Padded (text cs : List Char) : Prop :=
  ∃ before after, cs = before ++ text ++ after ∧ ∀ c ∈ before ++ after, isBlank c

@[simp] theorem decimalValue_nil : decimalValue [] = 0 := rfl

theorem decimalValue_cons :
    decimalValue (c :: digits) =
      (c.toNat - '0'.toNat) * 10 ^ digits.length + decimalValue digits := by
  rw [decimalValue, List.reverse_cons, List.map_append, Nat.ofDigits_append, List.length_map,
    List.length_reverse, List.map_singleton, Nat.ofDigits_singleton, Nat.mul_comm, Nat.add_comm]
  rfl

theorem digitValue?_eq_some_iff :
    digitValue? c = some n ↔ ('0' ≤ c ∧ c ≤ '9') ∧ c.toNat - '0'.toNat = n := by
  unfold digitValue?
  split
  next hdigit => simp [hdigit]
  next hdigit => simp [hdigit]

theorem naturalFrom_eq_some_iff :
    naturalFrom value digits = some n ↔
      (∀ c ∈ digits, '0' ≤ c ∧ c ≤ '9') ∧
        value * 10 ^ digits.length + decimalValue digits = n := by
  induction digits generalizing value with
  | nil => simp [naturalFrom]
  | cons c rest ih =>
    have hvalue (digit : Nat) :
        (value * 10 + digit) * 10 ^ rest.length + decimalValue rest =
          value * 10 ^ (rest.length + 1) + (digit * 10 ^ rest.length + decimalValue rest) := by
      rw [Nat.pow_succ, Nat.add_mul, Nat.mul_assoc, Nat.mul_comm 10, Nat.add_assoc]
    have hread : naturalFrom value (c :: rest) =
        (digitValue? c).bind fun digit => naturalFrom (value * 10 + digit) rest := rfl
    rw [hread, Option.bind_eq_some_iff, List.forall_mem_cons, decimalValue_cons]
    constructor
    · rintro ⟨digit, hdigit, hrest⟩
      obtain ⟨hc, rfl⟩ := digitValue?_eq_some_iff.mp hdigit
      obtain ⟨hdigits, rfl⟩ := ih.mp hrest
      exact ⟨⟨hc, hdigits⟩, (hvalue _).symm⟩
    · rintro ⟨⟨hc, hdigits⟩, rfl⟩
      exact ⟨_, digitValue?_eq_some_iff.mpr ⟨hc, rfl⟩, ih.mpr ⟨hdigits, hvalue _⟩⟩

theorem natural?_eq_some_iff :
    natural? digits = some n ↔ IsDecimal digits ∧ decimalValue digits = n := by
  cases digits with
  | nil => exact iff_of_false (by simp [natural?]) fun h => h.1.nonempty rfl
  | cons c rest =>
    have hread : natural? (c :: rest) = naturalFrom 0 (c :: rest) := rfl
    rw [hread, naturalFrom_eq_some_iff, Nat.zero_mul, Nat.zero_add]
    exact and_congr_left fun _ => ⟨fun h => ⟨by simp, h⟩, IsDecimal.digits⟩

theorem IsDecimal.not_cons (outside : ¬('0' ≤ c ∧ c ≤ '9')) : ¬IsDecimal (c :: digits) :=
  fun h => outside (h.digits c List.mem_cons_self)

theorem signed?_eq_some_iff : signed? cs = some number ↔ IsNumeral cs number := by
  constructor
  · intro h
    unfold signed? at h
    split at h
    all_goals
      obtain ⟨n, hn, rfl⟩ := Option.map_eq_some_iff.mp h
      obtain ⟨hdecimal, rfl⟩ := natural?_eq_some_iff.mp hn
    · exact .plus hdecimal
    · exact .minus hdecimal
    · exact .unsigned hdecimal
  · rintro (hdecimal | hdecimal | hdecimal)
    -- digits do not begin with a sign, which would be read as one
    · unfold signed?
      split
      · exact absurd hdecimal (IsDecimal.not_cons (by decide))
      · exact absurd hdecimal (IsDecimal.not_cons (by decide))
      · rw [natural?_eq_some_iff.mpr ⟨hdecimal, rfl⟩]
        rfl
    · rw [signed?, natural?_eq_some_iff.mpr ⟨hdecimal, rfl⟩]
      rfl
    · rw [signed?, natural?_eq_some_iff.mpr ⟨hdecimal, rfl⟩]
      rfl

/-- A word of so many bits is read if it is a numeral, and its number fits. -/
theorem signedWord?_eq_some_iff {bits : Nat} {word : String} :
    signedWord? bits word = some number ↔
      IsNumeral word.toList number ∧ fitsSigned bits number := by
  rw [signedWord?, Option.filter_eq_some_iff, signed?_eq_some_iff]

theorem not_isBlank_of_digit (h : '0' ≤ c ∧ c ≤ '9') : ¬isBlank c := by
  have hlow : 48 ≤ c.toNat := h.1
  have hhigh : c.toNat ≤ 57 := h.2
  unfold isBlank
  simp only [Bool.or_eq_true, Bool.and_eq_true, decide_eq_true_eq]
  omega

theorem IsDecimal.not_isBlank (h : IsDecimal digits) : ∀ c ∈ digits, ¬isBlank c :=
  fun c hc => not_isBlank_of_digit (h.digits c hc)

theorem IsNumeral.not_isBlank (h : IsNumeral cs number) : ∀ c ∈ cs, ¬isBlank c := by
  cases h with
  | unsigned decimal => exact decimal.not_isBlank
  | plus decimal => exact List.forall_mem_cons.mpr ⟨by decide, decimal.not_isBlank⟩
  | minus decimal => exact List.forall_mem_cons.mpr ⟨by decide, decimal.not_isBlank⟩

theorem padded_trimmed (cs : List Char) : Padded (trimmed cs) cs := by
  have hfront := List.takeWhile_append_dropWhile (p := isBlank) (l := cs)
  have hback := congrArg List.reverse (List.takeWhile_append_dropWhile (p := isBlank)
    (l := (cs.dropWhile isBlank).reverse))
  rw [List.reverse_append, List.reverse_reverse] at hback
  refine ⟨cs.takeWhile isBlank, ((cs.dropWhile isBlank).reverse.takeWhile isBlank).reverse,
    ?_, fun c hc => ?_⟩
  · rw [List.append_assoc, trimmed, hback, hfront]
  · rcases List.mem_append.mp hc with hc | hc
    · exact List.mem_takeWhile_imp hc
    · exact List.mem_takeWhile_imp (List.mem_reverse.mp hc)

/-- Blanks are dropped in front of a text that has none. -/
theorem dropWhile_solid (solid : ∀ c ∈ text, ¬isBlank c) (blank : ∀ c ∈ cs, isBlank c) :
    (cs ++ text).dropWhile isBlank = text := by
  rw [List.dropWhile_append_of_pos blank, List.dropWhile_eq_self_iff]
  exact fun hlength => solid _ (List.getElem_mem hlength)

/-- A text without blanks is what is left of it with blanks around it. -/
theorem trimmed_eq_iff (solid : ∀ c ∈ text, ¬isBlank c) : trimmed cs = text ↔ Padded text cs := by
  constructor
  · rintro rfl
    exact padded_trimmed cs
  · rintro ⟨before, after, rfl, hblank⟩
    rw [List.forall_mem_append] at hblank
    obtain ⟨hbefore, hafter⟩ := hblank
    have hsolid : ∀ c ∈ text.reverse, ¬isBlank c := fun c hc => solid c (List.mem_reverse.mp hc)
    have hback : ∀ c ∈ after.reverse, isBlank c := fun c hc => hafter c (List.mem_reverse.mp hc)
    rw [trimmed, List.append_assoc, List.dropWhile_append_of_pos hbefore]
    cases text with
    | nil =>
      rw [List.nil_append, List.dropWhile_eq_nil_iff.mpr hafter]
      rfl
    | cons c rest =>
      have hfront : ((c :: rest) ++ after).dropWhile isBlank = (c :: rest) ++ after :=
        List.dropWhile_cons_of_neg (solid c List.mem_cons_self)
      rw [hfront, List.reverse_append, dropWhile_solid hsolid hback, List.reverse_reverse]

/-- An integer is read from a trimmed text if a numeral stands between its blanks, and fits. -/
theorem signedWord?_trim {bits : Nat} {line : String} :
    signedWord? bits (trim line) = some number ↔
      (∃ numeral, Padded numeral line.toList ∧ IsNumeral numeral number) ∧
        fitsSigned bits number := by
  rw [signedWord?_eq_some_iff, trim, String.toList_ofList]
  refine and_congr_left fun _ => ⟨fun h => ⟨_, padded_trimmed _, h⟩, ?_⟩
  rintro ⟨numeral, hpadded, hnumeral⟩
  rwa [(trimmed_eq_iff hnumeral.not_isBlank).mpr hpadded]

end Storefront.Text
