import TodoPromo.Proofs.Json.Singles
import TodoPromo.Proofs.Services.Tables

/-! # Stored codes

Codes that were stored under keys of their own are validated as what they are (`Promo.stored_verdicts`):
whatever their windows and their names are, the verdict at a time is the one on the code itself. What
goes through its written form is the window, which comes back exactly, and the discount.

A code with a discount below one is read back as it was, bit for bit (`PromoCode.decode_encode_exact`),
since the discount is rounded back to itself. So the discount that is quoted for a stored code, at its
validation and at its redemption, is the one that it was generated with (`Promo.lossless`). -/

namespace TodoPromo

open Time (Instant)

namespace Promo

/-! ### Verdicts -/

/-- When codes with distinct keys were stored in any table, then each of them is valid exactly while it
can be redeemed, and otherwise it is rejected for the reason that stands against it. -/
theorem stored_verdicts {codes : List PromoCode} (hkeys : (codes.map PromoCode.key).Nodup)
    (hfinite : ∀ code ∈ codes, code.discount.isFinite = true) (c : Contents) :
    ∃ c', (writeAll codes).outcome c = (.ok (), c') ∧
      ∀ code ∈ codes, ∀ now, ∃ v, (validate now code.code).outcome c' = (.ok v, c') ∧
        (v.valid = true ↔ code.check now = none) ∧
        ∀ why, code.check now = some why → v = .rejected code.code why := by
  refine ⟨c.storing (entriesOf codes), writeAll_table codes c, fun code hcode now => ?_⟩
  obtain ⟨discount, hstored⟩ := stored?_storing hkeys hcode (hfinite code hcode) c
  have hcheck : ({ code with discount } : PromoCode).check now = code.check now := rfl
  refine ⟨_, validate_table hstored, valid_judged_verdict.trans (by rw [hcheck]), fun why hwhy => ?_⟩
  exact judged_of_check (hcheck.trans hwhy)

theorem stored_verdicts_distant :
    let early : Instant := ⟨-800000, 86399, 1999999999, by decide, by decide, by decide, by decide, by decide⟩
    let late : Instant := ⟨90000000, 59, 1000000001, by decide, by decide, by decide, by decide, by decide⟩
    let codes : List PromoCode :=
      [⟨"\"Été\"\n", early, late, ⟨0x3EB33332⟩, false⟩, ⟨"", late, early, ⟨0xFF7FFFFF⟩, true⟩]
    let c : Contents := Table.empty.insert "" [0x5B]
    (codes.map PromoCode.key).Nodup ∧ (∀ code ∈ codes, code.discount.isFinite = true) ∧
      ∃ c', (writeAll codes).outcome c = (.ok (), c') ∧
        ∀ code ∈ codes, ∀ now, ∃ v, (validate now code.code).outcome c' = (.ok v, c') ∧
          (v.valid = true ↔ code.check now = none) ∧
          ∀ why, code.check now = some why → v = .rejected code.code why := by
  intro early late codes c
  have hkeys : (codes.map PromoCode.key).Nodup := by decide +kernel
  have hfinite : ∀ code ∈ codes, code.discount.isFinite = true := by decide
  exact ⟨hkeys, hfinite, stored_verdicts hkeys hfinite c⟩

end Promo

/-! ### Discounts -/

theorem PromoCode.value_discountBound : discountBound.value = 11744051 / 2 ^ 25 := by
  rw [Single.value_eq (d := ⟨11744051, -25⟩) rfl rfl]
  norm_num

theorem PromoCode.decode_encode_exact {c : PromoCode} (hfinite : c.discount.isFinite = true)
    (h : |c.discount.value| < 1) : Json.decode (Json.encode c) = .ok c :=
  decode_encode_of_reread (Json.reread_single hfinite h)

theorem Contents.stored?_exact {t : Contents} {key : String} {c : PromoCode}
    (hget : t.get? key = some (Json.encode c)) (hfinite : c.discount.isFinite = true)
    (h : |c.discount.value| < 1) : t.stored? key = .ok (some c) :=
  stored?_of_decode hget (PromoCode.decode_encode_exact hfinite h)

namespace Promo

/-- A code with a discount in the range of the generated ones was written under any key of any table. Then
it is found there as it was, whoever presents the key while the code can be redeemed is quoted its
discount, and it is found with the same discount when it was redeemed. -/
theorem lossless {c : PromoCode} (hfinite : c.discount.isFinite = true) (hnonneg : 0 ≤ c.discount.value)
    (hbound : c.discount.value < PromoCode.discountBound.value) (key : String) (t : Contents) :
    ∃ t', (KeyValue.write key c).outcome t = (.ok (), t') ∧
      (KeyValue.read? key).outcome t' = (.ok (some c), t') ∧
      ∀ input now, PromoCode.keyOf input = key → c.check now = none →
        (validate now input).outcome t' = (.ok (.accepted input c.discount), t') ∧
        ∃ t'', (redeem now input).outcome t' =
            (.ok (Validation.accepted input c.discount).toRedemption, t'') ∧
          (KeyValue.read? key).outcome t'' = (.ok (some { c with used := true }), t'') := by
  have hone : |c.discount.value| < 1 := by
    rw [abs_of_nonneg hnonneg]
    refine hbound.trans ?_
    rw [PromoCode.value_discountBound]
    norm_num
  have hget : Table.get? (Table.insert t key (Json.encode c)) key = some (Json.encode c) := by
    rw [Table.get?_insert, if_pos rfl]
  have hstored := Contents.stored?_exact hget hfinite hone
  refine ⟨_, KeyValue.write_table key c t, ?_, ?_⟩
  · rw [KeyValue.read?_table, hstored]
  rintro input now rfl hcheck
  refine ⟨?_, _, redeem_table hstored hcheck, ?_⟩
  · rw [validate_table hstored, verdict_eq_ok.mpr ⟨rfl, hcheck⟩]
    rfl
  · rw [KeyValue.read?_table, Contents.stored?_exact (c := { c with used := true })
      (Contents.get?_commit_some ..) hfinite hone]

/-- A discount that is the hardest of all to tell from its neighbours, in a code whose window begins before
the year 0 and ends in a leap second after the year 9999. -/
theorem lossless_closest_call :
    let now : Instant := ⟨19800, 0, 0, by decide, by decide, by decide, by decide, by decide⟩
    let c : PromoCode := ⟨"\"Été\"\n",
      ⟨-800000, 86399, 1999999999, by decide, by decide, by decide, by decide, by decide⟩,
      ⟨90000000, 59, 1000000001, by decide, by decide, by decide, by decide, by decide⟩, ⟨0x15AE43FD⟩, false⟩
    let t : Contents := Table.empty.insert c.key [0x5B]
    c.discount.isFinite = true ∧ 0 ≤ c.discount.value ∧ c.discount.value < PromoCode.discountBound.value ∧
      ∃ t', (KeyValue.write c.key c).outcome t = (.ok (), t') ∧
        (KeyValue.read? c.key).outcome t' = (.ok (some c), t') ∧
        (validate now "\"ÉTÉ\"\n").outcome t' = (.ok (.accepted "\"ÉTÉ\"\n" c.discount), t') := by
  intro now c t
  have hfinite : c.discount.isFinite = true := by decide
  have hmagnitude : c.discount.magnitude = ⟨11420669, -107⟩ := by decide
  have hvalue : c.discount.value = 11420669 / 2 ^ 107 := by
    rw [Single.value_eq rfl hmagnitude]
    norm_num
  have hnonneg : 0 ≤ c.discount.value := by
    rw [hvalue]
    positivity
  have hbound : c.discount.value < PromoCode.discountBound.value := by
    rw [hvalue, PromoCode.value_discountBound]
    norm_num
  have hkey : PromoCode.keyOf "\"ÉTÉ\"\n" = c.key := by decide +kernel
  have hcheck : c.check now = none := by decide +kernel
  obtain ⟨t', hwrite, hread, hquoted⟩ := lossless hfinite hnonneg hbound c.key t
  exact ⟨hfinite, hnonneg, hbound, t', hwrite, hread, (hquoted _ now hkey hcheck).1⟩

end Promo
end TodoPromo
