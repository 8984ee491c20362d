import TodoPromo.Promo.Code
import TodoPromo.Proofs.Json.Verbatim

/-! # Written verdicts

A verdict is written in one of two forms, of which one leaves out an empty reason. Both forms are objects of
the same fields, so each is read from the texts of both (`spells_verdictText`), and only the discount may
come out as another number. -/

namespace TodoPromo

/-- The fields of a verdict, whose reason may be left out. -/
def verdictFields (omits : String → Bool) : List Json.Field :=
  [.required "code" .text, .required "isValid" .flag, reasonField omits, .required "discount" .single]

theorem nodup_verdictFields (omits : String → Bool) :
    ((verdictFields omits).map Json.Field.name).Nodup := by
  simp [verdictFields, Json.Field.required, reasonField]

/-- A verdict of which the reason may be missing. -/
def verdictDraft (omits : String → Bool) (code : String) (valid : Bool) (reason? : Option String)
    (discount : Single) : Json.Draft (verdictFields omits) :=
  (some code, some valid, reason?, some discount, ())

/-- The text of a verdict of which the reason may be missing. Which form it is does not matter. -/
def verdictText (code : String) (valid : Bool) (reason? : Option String) (discount : Single) : Bytes :=
  let omits := fun _ => false
  Json.writeObject ((verdictDraft omits code valid reason? discount).members (verdictFields omits))

section
variable {code : String} {valid : Bool} {reason? : Option String} {discount discount' : Single}

theorem members_verdictDraft (omits omits' : String → Bool) :
    (verdictDraft omits code valid reason? discount).members (verdictFields omits) =
      (verdictDraft omits' code valid reason? discount).members (verdictFields omits') := by
  cases reason? with
  | none => rfl
  | some reason => rfl

/-- A missing reason is completed by the empty one, and only the discount hangs on its written form. -/
theorem complete_verdictDraft (omits : String → Bool)
    (h : Json.Kind.single.reread discount = some discount') :
    (((verdictDraft omits code valid reason? discount).reread (verdictFields omits)).bind fun d =>
      (d.complete (verdictFields omits)).toOption) =
        some (code, valid, reason?.getD "", discount', ()) := by
  have hreread : (verdictDraft omits code valid reason? discount).reread (verdictFields omits) =
      some (verdictDraft omits code valid reason? discount') := by
    unfold verdictDraft verdictFields
    cases reason? with
    | none =>
        simp only [Json.Draft.reread, Json.Field.required, Json.Kind.reread_text, Json.Kind.reread_flag, h,
          Option.bind_some]
        rfl
    | some reason =>
        simp only [Json.Draft.reread, Json.Field.required, reasonField, Json.Kind.reread_text,
          Json.Kind.reread_flag, h, Option.bind_some]
        rfl
  rw [hreread]
  cases reason? with
  | none => rfl
  | some reason => rfl

/-- Either form of a verdict is read from a text with a reason and from one without it. -/
theorem spells_verdictText (title : String) (omits : String → Bool)
    (h : Json.Kind.single.reread discount = some discount') :
    Json.Spells (Json.Row.read ⟨title, verdictFields omits⟩) (verdictText code valid reason? discount)
      (some (code, valid, reason?.getD "", discount', ())) := by
  have hspells := Json.Draft.spells_members (s := ⟨title, verdictFields omits⟩) (nodup_verdictFields omits)
    (verdictDraft omits code valid reason? discount)
  rw [complete_verdictDraft omits h, members_verdictDraft omits fun _ => false] at hspells
  exact hspells

theorem decode_validation_verdictText (h : Json.Kind.single.reread discount = some discount') :
    Json.decode (verdictText code valid reason? discount) =
      .ok (⟨code, valid, reason?.getD "", discount'⟩ : Validation) :=
  Json.decode_of_spells ((spells_verdictText "ValidationResult" (fun _ => false) h).map
    (Json.Record.ofRow : _ → Validation))

theorem decode_redemption_verdictText (h : Json.Kind.single.reread discount = some discount') :
    Json.decode (verdictText code valid reason? discount) =
      .ok (⟨code, valid, reason?.getD "", discount'⟩ : Redemption) :=
  Json.decode_of_spells ((spells_verdictText "ApplyResult" String.isEmpty h).map
    (Json.Record.ofRow : _ → Redemption))

end

/-! ### The two forms -/

/-- The reason as the answer to a redemption has it. -/
def Validation.shownReason? (v : Validation) : Option String :=
  if v.reason.isEmpty then none else some v.reason

theorem Validation.getD_shownReason? (v : Validation) : v.shownReason?.getD "" = v.reason := by
  unfold shownReason?
  cases hempty : v.reason.isEmpty with
  | true => exact (String.isEmpty_iff.mp hempty).symm
  | false => rfl

theorem encode_validation (v : Validation) :
    Json.encode v = verdictText v.code v.valid (some v.reason) v.discount :=
  rfl

theorem draft_redemption (v : Validation) :
    Json.Row.draft (verdictFields String.isEmpty) (Json.Record.toRow v.toRedemption) =
      verdictDraft String.isEmpty v.code v.valid v.shownReason? v.discount :=
  rfl

theorem encode_redemption (v : Validation) :
    Json.encode v.toRedemption = verdictText v.code v.valid v.shownReason? v.discount := by
  have hmembers := Json.Row.members_draft (verdictFields String.isEmpty) (Json.Record.toRow v.toRedemption)
  rw [draft_redemption, members_verdictDraft String.isEmpty fun _ => false] at hmembers
  exact (congrArg Json.writeObject hmembers).symm

section
variable {v : Validation} {discount : Single} (h : Json.Kind.single.reread v.discount = some discount)
include h

theorem decode_validation : Json.decode (Json.encode v) = .ok { v with discount } := by
  rw [encode_validation]
  exact decode_validation_verdictText h

theorem decode_redemption :
    Json.decode (Json.encode v.toRedemption) = .ok ({ v with discount } : Validation).toRedemption := by
  rw [encode_redemption, decode_redemption_verdictText h, v.getD_shownReason?]
  rfl

/-- The answer to a validation can be read as the answer to a redemption. -/
theorem decode_validation_as_redemption :
    Json.decode (Json.encode v) = .ok ({ v with discount } : Validation).toRedemption := by
  rw [encode_validation]
  exact decode_redemption_verdictText h

/-- The answer to a redemption can be read as the answer to a validation. -/
theorem decode_redemption_as_validation :
    Json.decode (Json.encode v.toRedemption) = .ok { v with discount } := by
  rw [encode_redemption, decode_validation_verdictText h, v.getD_shownReason?]

end

namespace Validation

/-- The members of the written form, each with its text. -/
def object (v : Validation) : Table String Json.Verbatim :=
  ⟨[("code", ⟨Json.encode v.code⟩), ("isValid", ⟨Json.encode v.valid⟩), ("reason", ⟨Json.encode v.reason⟩),
    ("discount", ⟨Json.encode v.discount⟩)], by simp⟩

theorem decode_object (v : Validation) :
    Json.decode (Json.encode v) = .ok v.object ∧ Json.encode v.object = Json.encode v :=
  Json.decode_verbatim v rfl

/-- The members of the written answer to a redemption. -/
def shownObject (v : Validation) : Table String Json.Verbatim :=
  if v.valid then v.object.erase "reason" else v.object

theorem decode_shownObject {v : Validation} (h : v.reason.isEmpty = v.valid) :
    Json.decode (Json.encode v.toRedemption) = .ok v.shownObject ∧
      Json.encode v.shownObject = Json.encode v.toRedemption := by
  apply Json.decode_verbatim v.toRedemption
  change _ = (Json.Row.draft (verdictFields String.isEmpty) (Json.Record.toRow v.toRedemption)).texts _
  rw [draft_redemption]
  unfold shownReason? shownObject
  rw [h]
  by_cases hvalid : v.valid = true
  · rw [if_pos hvalid, if_pos hvalid]
    rfl
  · rw [if_neg hvalid, if_neg hvalid]
    rfl

end Validation

theorem Rejection.message_isEmpty (why : Rejection) : why.message.isEmpty = false := by
  cases why <;> decide

namespace Validation

/-- The verdicts on a code: either it has a discount, or there is a reason why it has none. -/
def onCode (input : String) (discount : Single) (why : Rejection) : List Validation :=
  [accepted input discount, rejected input why]

section
variable {input : String} {discount : Single} {why : Rejection} {v : Validation}
  (h : v ∈ onCode input discount why)
include h

/-- A verdict has a reason exactly if the code is not valid. -/
theorem isEmpty_reason : v.reason.isEmpty = v.valid := by
  simp only [onCode, List.mem_cons, List.not_mem_nil, or_false] at h
  obtain rfl | rfl := h
  · rfl
  · exact why.message_isEmpty

theorem isFinite_discount (hfinite : discount.isFinite = true) : v.discount.isFinite = true := by
  simp only [onCode, List.mem_cons, List.not_mem_nil, or_false] at h
  obtain rfl | rfl := h
  · exact hfinite
  · rfl

end

/-- Both forms of a verdict are objects: the answer to a validation always has the same four members, and the
answer to a redemption has them too, but for the reason exactly if the code is valid. Either form is read
from the texts of both, with the code, the validity and the reason of the verdict. -/
theorem forms_agree (input : String) {discount : Single} (hfinite : discount.isFinite = true)
    (why : Rejection) {v : Validation} (hv : v ∈ onCode input discount why) :
    v.object.keys = ["code", "isValid", "reason", "discount"] ∧
    Json.decode (Json.encode v) = .ok v.object ∧ Json.encode v.object = Json.encode v ∧
    Json.decode (Json.encode v.toRedemption) = .ok v.shownObject ∧
    Json.encode v.shownObject = Json.encode v.toRedemption ∧
    ∃ read : Validation, (read.code = v.code ∧ read.valid = v.valid ∧ read.reason = v.reason) ∧
      ∀ text ∈ [Json.encode v, Json.encode v.toRedemption],
        Json.decode text = .ok read ∧ Json.decode text = .ok read.toRedemption := by
  obtain ⟨hdecode, hencode⟩ := v.decode_object
  obtain ⟨hdecode', hencode'⟩ := decode_shownObject (isEmpty_reason hv)
  have hdiscount := isFinite_discount hv hfinite
  rw [← Json.Kind.isSome_reread_single] at hdiscount
  obtain ⟨discount', hdiscount⟩ := Option.isSome_iff_exists.mp hdiscount
  refine ⟨rfl, hdecode, hencode, hdecode', hencode', { v with discount := discount' }, ⟨rfl, rfl, rfl⟩, ?_⟩
  intro text htext
  simp only [List.mem_cons, List.not_mem_nil, or_false] at htext
  obtain rfl | rfl := htext
  · exact ⟨decode_validation hdiscount, decode_validation_as_redemption hdiscount⟩
  · exact ⟨decode_redemption_as_validation hdiscount, decode_redemption hdiscount⟩

/-- A code with a quote and a control character that has a quarter off. -/
theorem forms_agree_quoted :
    let v := accepted "\"\u0001" ⟨0x3E800000⟩
    v ∈ onCode "\"\u0001" ⟨0x3E800000⟩ .expired ∧
      v.shownObject.keys = ["code", "isValid", "discount"] ∧
      Json.decode (Json.encode v) = .ok v.object ∧
      Json.decode (Json.encode v.toRedemption) = .ok v.shownObject ∧
      Json.encode v.toRedemption = Text.encode
        "\x7b\"code\":\"\\\"\\u0001\",\"isValid\":true,\"discount\":0.25\x7d" := by
  have hv : accepted "\"\u0001" ⟨0x3E800000⟩ ∈ onCode "\"\u0001" ⟨0x3E800000⟩ .expired :=
    List.mem_cons_self
  obtain ⟨-, hdecode, -, hdecode', -⟩ := forms_agree "\"\u0001" (by decide) .expired hv
  exact ⟨hv, rfl, hdecode, hdecode', by decide +kernel⟩

end Validation
end TodoPromo
