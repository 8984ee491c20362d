import TodoPromo.Proofs.Promo.Operations
import TodoPromo.Proofs.Text.SmallLetters

/-! # Spellings of a code

Keys are small letters, and the key of a key is itself. A code of hexadecimal digits and hyphens is found
by its spellings in any case and by nothing else (`keys_ignore_case`): although small letters are those of
all of Unicode, no character beyond ASCII has one of the letters of such a code for its small letter. -/

namespace TodoPromo

/-! ### Inputs and entries -/

namespace Promo

variable {now : Time.Instant} {input input' key : String} {entry : Bytes}

theorem redeemable_table (now : Time.Instant) (input : String) (c : Contents) :
    (redeemable now input).outcome c =
      ((c.stored? (PromoCode.keyOf input)).map (verdict now), c) := by
  rw [redeemable_eq_verdict]
  have hread := KeyValue.read?_table (α := PromoCode) (PromoCode.keyOf input) c
  cases hstored : (c.stored? (PromoCode.keyOf input) : Except ActionError (Option PromoCode)) with
  | error e =>
      rw [hstored] at hread
      exact Action.outcome_bind_error hread
  | ok c? =>
      rw [hstored] at hread
      exact Action.outcome_bind_ok hread

theorem redeemable_congr (h : PromoCode.keyOf input = PromoCode.keyOf input') (c : Contents) :
    (redeemable now input).outcome c = (redeemable now input').outcome c := by
  rw [redeemable_table, redeemable_table, h]

theorem redeem_congr (h : PromoCode.keyOf input = PromoCode.keyOf input') (c : Contents) :
    ((redeem now input).outcome c).2 = ((redeem now input').outcome c).2 := by
  rw [redeem_eq_transact, redeem_eq_transact, h, KeyValue.transact_table, KeyValue.transact_table]
  cases (c.stored? (PromoCode.keyOf input') : Except ActionError (Option PromoCode)) with
  | error e => rfl
  | ok c? => rfl

/-- An input with another key finds what it finds without the entry. -/
theorem redeemable_insert (h : key ≠ PromoCode.keyOf input) (c : Contents) :
    (redeemable now input).outcome (c.insert key entry) =
      (((redeemable now input).outcome c).1, c.insert key entry) := by
  have hstored : Contents.stored? (α := PromoCode) (c.insert key entry) (PromoCode.keyOf input) =
      c.stored? (PromoCode.keyOf input) :=
    Contents.stored?_congr ((Table.get?_insert ..).trans (if_neg h))
  rw [redeemable_table, redeemable_table, hstored]

theorem get?_redeem_insert (h : key ≠ PromoCode.keyOf input) (c : Contents) :
    ((redeem now input).outcome (c.insert key entry)).2.get? key = some entry := by
  have hentry : (c.insert key entry).get? key = some entry :=
    (Table.get?_insert ..).trans (if_pos rfl)
  rw [redeem_eq_transact, KeyValue.transact_table]
  cases Contents.stored? (α := PromoCode) (c.insert key entry) (PromoCode.keyOf input) with
  | error e => exact hentry
  | ok c? => exact (Contents.get?_commit_of_ne (Ne.symm h) _).trans hentry

end Promo

/-! ### Codes of hexadecimal digits -/

namespace PromoCode

/-- The text of hexadecimal digits and hyphens, as identifiers are. -/
def IsHexadecimal (code : String) : Prop :=
  ∀ x ∈ code.toList, x ∈ "0123456789abcdefABCDEF-".toList

instance (code : String) : Decidable (IsHexadecimal code) :=
  List.decidableBAll (· ∈ "0123456789abcdefABCDEF-".toList) code.toList

theorem IsHexadecimal.toLower_le {code : String} (h : IsHexadecimal code) :
    ∀ x ∈ code.toLower.toList, x.toNat ≤ Text.lastPlain.toNat := by
  have hdigits : ("0123456789abcdefABCDEF-".toList.all
      fun x => x.toLower.toNat ≤ Text.lastPlain.toNat) = true := by
    decide
  intro x hx
  rw [Text.toList_toLower] at hx
  obtain ⟨y, hy, rfl⟩ := List.mem_map.mp hx
  exact of_decide_eq_true (List.all_eq_true.mp hdigits y (h y hy))

/-- A key is its own key. Whatever is stored under the key of a hexadecimal code, an input that is the
same but for the case of the letters A to Z finds and redeems it as the code itself does. For any other
input it is as if the entry were not there, and a redemption leaves the entry as it is. -/
theorem keys_ignore_case :
    (∀ s, keyOf (keyOf s) = keyOf s) ∧
      ∀ code, IsHexadecimal code → ∀ input,
        (keyOf input = keyOf code ↔ input.toLower = code.toLower) ∧
          ∀ (c : Contents) (entry : Bytes) (now : Time.Instant),
            let stored := c.insert (keyOf code) entry
            if input.toLower = code.toLower then
              (Promo.redeemable now input).outcome stored =
                  (Promo.redeemable now code).outcome stored ∧
                ((Promo.redeem now input).outcome stored).2 =
                  ((Promo.redeem now code).outcome stored).2
            else
              (Promo.redeemable now input).outcome stored =
                  (((Promo.redeemable now input).outcome c).1, stored) ∧
                ((Promo.redeem now input).outcome stored).2.get? (keyOf code) = some entry := by
  refine ⟨Text.lowercase_lowercase, fun code hcode input => ?_⟩
  have hkey : keyOf input = keyOf code ↔ input.toLower = code.toLower :=
    Text.lowercase_eq_iff hcode.toLower_le
  refine ⟨hkey, fun c entry now => ?_⟩
  intro stored
  split
  · rename_i hsame
    exact ⟨Promo.redeemable_congr (hkey.mpr hsame) stored, Promo.redeem_congr (hkey.mpr hsame) stored⟩
  · rename_i hother
    have hne : keyOf code ≠ keyOf input := fun h => hother (hkey.mp h.symm)
    exact ⟨Promo.redeemable_insert hne c, Promo.get?_redeem_insert hne c⟩

theorem keys_ignore_case_wide :
    let code := "6ba7b810-9dad-11d1-80b4-00c04fd430c8"
    IsHexadecimal code ∧ keyOf "6BA7B810-9DAD-11D1-80B4-00C04FD430C8" = keyOf code ∧
      keyOf "6Ｂa7b810-9dad-11d1-80b4-00c04fd430c8" ≠ keyOf code := by
  intro code
  have hcode : IsHexadecimal code := by decide
  refine ⟨hcode, (keys_ignore_case.2 code hcode _).1.mpr ?_, fun h => ?_⟩
  · rw [Text.toLower_eq_iff]
    decide
  · have hsame := (keys_ignore_case.2 code hcode _).1.mp h
    rw [Text.toLower_eq_iff] at hsame
    exact absurd hsame (by decide)

end PromoCode
end TodoPromo
