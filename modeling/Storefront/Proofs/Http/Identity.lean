import Storefront.Http.Identity
import Storefront.Proofs.Text.Numerals

/-!
Who passes as whom. The headers name a user by a numeral with blanks around it, and give a role by
its exact name; a header that is not readable text is as good as none.
-/

namespace Storefront.Http

/-- Printable ASCII characters and tabs. -/
def IsReadable (value : String) : Prop :=
  ∀ c ∈ value.toList, (' ' ≤ c ∧ c ≤ '~') ∨ c = '\t'

namespace Headers

variable {headers other : Headers} {name value role : String} {user : UserId}

/-- A header has a value, and it is readable. -/
def Read (headers : Headers) (name value : String) : Prop :=
  headers.get? name = some value ∧ IsReadable value

/-- The headers name a user: a positive integer of 32 bits, in decimal digits with an optional sign
and with blanks around it. -/
structure Names (headers : Headers) (user : UserId) : Prop where
  written : ∃ value numeral, headers.Read "x-user-id" value ∧ Text.Padded numeral value.toList ∧
    Text.IsNumeral numeral user
  positive : 1 ≤ user
  fits : user ≤ 2_147_483_647

/-- The role that the headers give. It is that of a user unless they can be read to say
otherwise. -/
def GiveRole (headers : Headers) (role : String) : Prop :=
  headers.Read "x-user-role" role ∨
    (∀ value, ¬headers.Read "x-user-role" value) ∧ role = "user"

/-- Whoever sends these headers may do as the user what is open to the role. -/
structure PassAs (headers : Headers) (role : Role) (user : UserId) : Prop where
  named : headers.Names user
  given : headers.GiveRole role.name

/-- Two requests come with the same identity. -/
structure SameIdentity (headers other : Headers) : Prop where
  id_eq : headers.get? "x-user-id" = other.get? "x-user-id"
  role_eq : headers.get? "x-user-role" = other.get? "x-user-role"

theorem readable?_eq_some_iff : headers.readable? name = some value ↔ headers.Read name value := by
  have hmark (c : Char) :
      ((0x20 ≤ c.toNat && c.toNat < 0x7F) || c = '\t') = true ↔
        (' ' ≤ c ∧ c ≤ '~') ∨ c = '\t' := by
    rw [Bool.or_eq_true, Bool.and_eq_true, decide_eq_true_eq, decide_eq_true_eq, decide_eq_true_eq]
    exact or_congr_left (and_congr_right fun _ => Nat.lt_succ_iff)
  rw [readable?, Option.filter_eq_some_iff, List.all_eq_true]
  exact and_congr_right fun _ => forall₂_congr fun c _ => hmark c

theorem claimedUser?_eq_some_iff : claimedUser? headers = some user ↔ headers.Names user := by
  have hrange (n : Int) : Text.fitsSigned 32 n ∧ 0 < n ↔ 1 ≤ n ∧ n ≤ 2_147_483_647 := by
    have hwidth : ((twoTo (32 - 1) : Nat) : Int) = 2_147_483_648 := rfl
    rw [Text.fitsSigned, decide_eq_true_eq, hwidth]
    omega
  rw [claimedUser?, Option.filter_eq_some_iff, Option.bind_eq_some_iff, decide_eq_true_eq]
  simp only [readable?_eq_some_iff, Text.signedWord?_trim]
  constructor
  · rintro ⟨⟨value, hread, ⟨numeral, hpadded, hnumeral⟩, hfits⟩, hpositive⟩
    obtain ⟨hone, hmost⟩ := (hrange user).mp ⟨hfits, hpositive⟩
    exact ⟨⟨value, numeral, hread, hpadded, hnumeral⟩, hone, hmost⟩
  · rintro ⟨⟨value, numeral, hread, hpadded, hnumeral⟩, hone, hmost⟩
    obtain ⟨hfits, hpositive⟩ := (hrange user).mpr ⟨hone, hmost⟩
    exact ⟨⟨value, hread, ⟨numeral, hpadded, hnumeral⟩, hfits⟩, hpositive⟩

theorem claimedRole_eq_iff : claimedRole headers = role ↔ headers.GiveRole role := by
  have hread (value : String) :
      headers.readable? userRoleHeader = some value ↔ headers.Read "x-user-role" value :=
    readable?_eq_some_iff
  rw [claimedRole, GiveRole]
  simp only [← hread]
  cases headers.readable? userRoleHeader with
  | none => simp [Role.name, eq_comm]
  | some stated => simp

end Headers

variable {headers other : Headers} {role : Role} {user : UserId}

theorem identify_eq_ok_iff : identify role headers = .ok user ↔ headers.PassAs role user := by
  constructor
  · intro h
    unfold identify at h
    split at h
    · cases h
    next named hnamed =>
      split at h
      next hrole =>
        obtain rfl := Except.ok.inj h
        exact ⟨Headers.claimedUser?_eq_some_iff.mp hnamed, Headers.claimedRole_eq_iff.mp hrole⟩
      · cases h
  · rintro ⟨hnamed, hgiven⟩
    unfold identify
    rw [Headers.claimedUser?_eq_some_iff.mpr hnamed]
    exact if_pos (Headers.claimedRole_eq_iff.mpr hgiven)

/-- Who is not named is nobody, whatever the role. -/
theorem identify_of_unnamed (unnamed : ∀ user, ¬headers.Names user) :
    identify role headers = .error .unauthorized := by
  have hnone : claimedUser? headers = none :=
    Option.eq_none_iff_forall_ne_some.mpr fun user h =>
      unnamed user (Headers.claimedUser?_eq_some_iff.mp h)
  rw [identify, hnone]

/-- Who is named comes in the wrong role. -/
theorem identify_of_otherRole (named : headers.Names user) (other : ¬headers.GiveRole role.name) :
    identify role headers = .error role.refusal := by
  have hother : claimedRole headers ≠ role.name := fun h => other (Headers.claimedRole_eq_iff.mp h)
  rw [identify, Headers.claimedUser?_eq_some_iff.mpr named]
  exact if_neg hother

theorem exists_refusal (stopped : ∀ user, ¬headers.PassAs role user) :
    ∃ cause, identify role headers = .error cause := by
  cases h : identify role headers with
  | error cause => exact ⟨cause, rfl⟩
  | ok user => exact absurd (identify_eq_ok_iff.mp h) (stopped user)

theorem identify_congr (same : headers.SameIdentity other) :
    identify role headers = identify role other := by
  have hid : headers.readable? userIdHeader = other.readable? userIdHeader :=
    congrArg (Option.filter _) same.id_eq
  have hrole : headers.readable? userRoleHeader = other.readable? userRoleHeader :=
    congrArg (Option.filter _) same.role_eq
  rw [identify, identify, claimedUser?, claimedUser?, claimedRole, claimedRole, hid, hrole]

end Storefront.Http
