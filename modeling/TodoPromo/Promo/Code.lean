import TodoPromo.Json.Record
import TodoPromo.Text.Lowercase

/-! # Promo codes

A code can be redeemed once, from the beginning of its window up to, but not including, its end.
Codes are looked up without regard to case.

The answer to a presented code has two forms with the same contents: the answer to a validation
always has a reason, which is empty for a valid code; the answer to a redemption leaves an empty
reason out. Both echo the code as it was presented. -/

namespace TodoPromo

structure PromoCode where
  code : String
  validFrom : Time.Instant
  validTo : Time.Instant
  discount : Single
  used : Bool
  deriving DecidableEq

instance : Json.Record PromoCode where
  shape := ⟨"PromoCode",
    [.required "code" .text, .required "validFrom" .instant, .required "validTo" .instant,
     .required "discount" .single, .required "used" .flag]⟩
  toRow c := (c.code, c.validFrom, c.validTo, c.discount, c.used, ())
  ofRow := fun (code, validFrom, validTo, discount, used, ()) =>
    ⟨code, validFrom, validTo, discount, used⟩
  ofRow_toRow _ := rfl

/-- Why a presented code cannot be redeemed. -/
inductive Rejection where
  | unknownCode
  | alreadyUsed
  | notYetActive
  | expired
  deriving DecidableEq, Repr

def Rejection.message : Rejection → String
  | unknownCode => "Invalid code presented"
  | alreadyUsed => "Code has already been used"
  | notYetActive => "Code is not active yet"
  | expired => "Code has expired"

namespace PromoCode

/-- Discounts are drawn from zero up to below this number, the closest one to 0.35. -/
def discountBound : Single := ⟨0x3EB33333⟩

/-- An unused code whose window begins and ends at midnight. -/
def fresh (id : String) (validFrom validTo : Time.Instant) (discount : Single) : PromoCode :=
  ⟨id, validFrom.startOfDay, validTo.startOfDay, discount, false⟩

/-- The store key of a code as it was presented. -/
def keyOf (input : String) : String := Text.lowercase input

/-- The store key of a code. -/
def key (c : PromoCode) : String := keyOf c.code

/-- Why the code cannot be redeemed at this time, if it cannot. -/
def check (c : PromoCode) (now : Time.Instant) : Option Rejection :=
  if c.used then some .alreadyUsed
  else if now < c.validFrom then some .notYetActive
  else if c.validTo ≤ now then some .expired
  else none

end PromoCode

/-! ### Verdicts -/

/-- The answer to a validation. -/
structure Validation where
  code : String
  valid : Bool
  reason : String
  discount : Single
  deriving DecidableEq

/-- The answer to a redemption. -/
structure Redemption where
  code : String
  valid : Bool
  reason : String
  discount : Single
  deriving DecidableEq

/-- The reason in an answer: a missing one counts as empty. -/
def reasonField (omits : String → Bool) : Json.Field := ⟨"reason", .text, some "", omits⟩

instance : Json.Record Validation where
  shape := ⟨"ValidationResult",
    [.required "code" .text, .required "isValid" .flag, reasonField fun _ => false,
     .required "discount" .single]⟩
  toRow v := (v.code, v.valid, v.reason, v.discount, ())
  ofRow := fun (code, valid, reason, discount, ()) => ⟨code, valid, reason, discount⟩
  ofRow_toRow _ := rfl

instance : Json.Record Redemption where
  shape := ⟨"ApplyResult",
    [.required "code" .text, .required "isValid" .flag, reasonField String.isEmpty,
     .required "discount" .single]⟩
  toRow v := (v.code, v.valid, v.reason, v.discount, ())
  ofRow := fun (code, valid, reason, discount, ()) => ⟨code, valid, reason, discount⟩
  ofRow_toRow _ := rfl

namespace Validation

def accepted (input : String) (discount : Single) : Validation := ⟨input, true, "", discount⟩

def rejected (input : String) (why : Rejection) : Validation :=
  ⟨input, false, why.message, Single.zero⟩

/-- The same verdict as the answer to a redemption. -/
def toRedemption (v : Validation) : Redemption := ⟨v.code, v.valid, v.reason, v.discount⟩

end Validation
end TodoPromo
