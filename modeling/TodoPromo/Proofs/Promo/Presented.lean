import TodoPromo.Proofs.Files.Paths
import TodoPromo.Proofs.Promo.WrittenVerdicts
import TodoPromo.Proofs.Services.Concealment
import TodoPromo.Proofs.Services.Separation
import TodoPromo.Proofs.Text.PercentEncoding
import TodoPromo.Proofs.Text.Trimming

/-! # Presented codes

A code is presented as a segment of a path, percent-encoded, and may consist of any characters. What is
looked up is its key, and what is echoed is the code itself, whatever the store holds
(`PromoRouter.presented_echoed`); a blank code is refused without a look at the store. This is proved on
tables, and then holds for all stores without faults (`PromoRouter.answersAs_table`). -/

namespace TodoPromo

open Http

/-- Under the key there is nothing, or a code with a finite discount. -/
def Contents.Legible (c : Contents) (key : String) : Prop :=
  c.get? key = none ∨ ∃ bs, ∃ code : PromoCode, c.get? key = some bs ∧ Json.decode bs = .ok code ∧
    code.discount.isFinite = true

theorem Contents.Legible.stored? {c : Contents} {key : String} (h : c.Legible key) :
    ∃ c? : Option PromoCode, c.stored? key = .ok c? ∧
      ∀ code, c? = some code → code.discount.isFinite = true := by
  obtain hnone | ⟨bs, code, hget, hdecode, hfinite⟩ := h
  · refine ⟨none, ?_, fun code hcode => nomatch hcode⟩
    unfold Contents.stored?
    rw [hnone]
  · refine ⟨some code, stored?_of_decode hget hdecode, fun code' hcode' => ?_⟩
    rwa [← Option.some.inj hcode']

theorem Promo.finite_judged (now : Time.Instant) (input : String) {c? : Option PromoCode}
    (h : ∀ code, c? = some code → code.discount.isFinite = true) :
    (judged input (verdict now c?)).discount.isFinite = true := by
  cases hverdict : verdict now c? with
  | error why => rfl
  | ok code => exact h code (verdict_eq_ok.mp hverdict).1

theorem Promo.code_judged {now : Time.Instant} {input : String} {c? : Option PromoCode} :
    (judged input (verdict now c?)).code = input := by
  cases verdict now c? with
  | error why => rfl
  | ok code => rfl

/-! ### Requests on one key -/

/-- A computation that hangs on one key of a store, and changes nothing elsewhere. -/
structure ActsOn {ρ α : Type} (key : String) (x : StateM (Contents × ρ) α) : Prop where
  elsewhere : ∀ key', key' ≠ key → ∀ s, AgreeAt key' (x s).2 s
  there : ∀ s s', AgreeAt key s s' → (x s).1 = (x s').1 ∧ AgreeAt key (x s).2 (x s').2

theorem actsOn_transact {ρ α β γ : Type} [Json.Coded α] (key : String) (f : Option α → β × Option α)
    (reply : Except ActionError β → γ) :
    ActsOn key (onStore (KeyValue.transact key f) reply : StateM (Contents × ρ) γ) where
  elsewhere _ hne s := agreeAt_transact hne.symm f reply s
  there _ _ h := h.transact f reply

/-- A computation is answered by a store as it is by the table that the store holds, and then the store holds
what the table has become. -/
def AnswersAs {σ ρ α : Type} (R : σ → Contents → Prop) (x : StateM (σ × ρ) α)
    (y : StateM (Contents × ρ) α) : Prop :=
  ∀ s t source, R s t → ∃ a s' t' source', x (s, source) = (a, (s', source')) ∧
    y (t, source) = (a, (t', source')) ∧ R s' t'

/-- A request that posts to a path, with any query, headers and body. -/
structure Http.Request.Posts (r : Request) (path : String) : Prop where
  method : r.method = "POST"
  target : ∃ query, r.target = path ++ query ∧ (query = "" ∨ query.toList.head? = some '?')

theorem Http.Request.Posts.pathSegments {r : Request} {path segment : String} (h : r.Posts path)
    (name : String) (hpath : path.toList = '/' :: name.toList ++ '/' :: segment.toList)
    (hname : name.toList.all (fun c => c ∉ ['/', '?', '#']) = true)
    (hsegment : ∀ c ∈ segment.toList, c ∉ ['/', '?', '#']) :
    pathSegments r.target = ["", name, segment] := by
  obtain ⟨query, htarget, hquery⟩ := h.target
  have hstop : query.toList.takeWhile (fun c => c != '?' && c != '#') = [] := by
    obtain rfl | hmark := hquery
    · rfl
    · obtain ⟨rest, hrest⟩ := List.head?_eq_some_iff.mp hmark
      rw [hrest]
      rfl
  have hname : ∀ c ∈ name.toList, c ∉ ['/', '?', '#'] := by
    simpa using hname
  have hkept : ∀ c ∈ path.toList, (c != '?' && c != '#') = true := by
    intro c hc
    rw [hpath] at hc
    grind
  have hslash : '/' ∉ name.toList := fun h => hname '/' h (by simp)
  have hslash' : '/' ∉ segment.toList := fun h => hsegment '/' h (by simp)
  have hparts : Text.parts '/' ([] ++ '/' :: (name.toList ++ '/' :: segment.toList)) =
      [[], name.toList, segment.toList] := by
    rw [Text.parts_append_cons, Text.parts_append_cons, Text.parts_of_not_mem hslash,
      Text.parts_of_not_mem hslash']
    rfl
  unfold Http.pathSegments
  rw [htarget, String.toList_append, List.takeWhile_append_of_pos hkept, hstop, List.append_nil, hpath]
  show (Text.parts '/' ([] ++ '/' :: (name.toList ++ '/' :: segment.toList))).map String.ofList = _
  rw [hparts]
  simp

namespace PromoRouter

variable {ρ : Type} [NumberSource ρ] {s segment : String} {r : Request} {now : Time.Instant}
  {ids : List String}

/-- Any request is answered by a store without faults as by the table that it holds. -/
theorem answersAs_table {σ : Type} [KeyValue σ] {R : σ → Contents → Prop} (h : FaultFree R)
    (now : Time.Instant) (ids : List String) (r : Request) :
    AnswersAs R (respond now ids r : StateM (σ × ρ) (Option Response)) (respond now ids r) := by
  intro s t source hst
  have hmeets := respond_meets h.storesAgree now ids r hst source
  cases hs : (respond now ids r : StateM (σ × ρ) (Option Response)) (s, source) with
  | mk a s' =>
      cases ht : (respond now ids r : StateM (Contents × ρ) (Option Response)) (t, source) with
      | mk b t' =>
          rw [hs, ht] at hmeets
          cases hmeets with
          | none h' => exact ⟨_, _, _, _, rfl, rfl, h'⟩
          | some hanswers =>
              cases hanswers with
              | same hstatus h' => exact ⟨_, _, _, _, rfl, rfl, h'⟩
              | failed herror =>
                  obtain ⟨rfl, h'⟩ := herror
                  exact ⟨_, _, _, _, rfl, rfl, h'⟩

/-- The path of a request presents a segment to a resource. An empty segment is no code. -/
def LeadsTo (r : Request) (segment : String) (x : Resource) : Prop :=
  Resource.ofTarget? r.target = some (if segment.isEmpty then .missingCode else x)

section
variable (hsegment : Text.PercentEncodes segment.toList (Text.encode s))
include hsegment

theorem leadsTo_validate (h : r.Posts ("/validate/" ++ segment)) : LeadsTo r segment (.validate segment) := by
  unfold LeadsTo Resource.ofTarget?
  rw [h.pathSegments "validate" (by rw [String.toList_append]; rfl) (by decide)
    fun c hc => (hsegment.plain c hc).2]
  rfl

theorem leadsTo_redeem (h : r.Posts ("/apply/" ++ segment)) : LeadsTo r segment (.redeem segment) := by
  unfold LeadsTo Resource.ofTarget?
  rw [h.pathSegments "apply" (by rw [String.toList_append]; rfl) (by decide)
    fun c hc => (hsegment.plain c hc).2]
  rfl

theorem segment_isEmpty (hs : Text.allBlank s = false) : segment.isEmpty = false := by
  cases hempty : segment.isEmpty with
  | false => rfl
  | true =>
      rw [String.isEmpty_iff] at hempty
      subst hempty
      have hnil : Text.encode s = Text.encode "" := hsegment.eq_nil_iff.mp rfl
      rw [Text.encode_inj hnil] at hs
      cases hs

theorem decodeSegment?_encoded : decodeSegment? segment = some s := by
  have hdecode := Text.decode_percentEncoded hsegment
  rwa [String.ofList_toList] at hdecode

end

/-- The answer to a request as what a transaction comes to. -/
def reply {β : Type} (r : Request) (g : β → Response) : Except ActionError β → Option Response
  | .ok b => some ((g b).shared r)
  | .error e => some ((Response.ofActionError e).shared r)

section
variable {x : Resource} (hsegment : Text.PercentEncodes segment.toList (Text.encode s))
  (hx : LeadsTo r segment x) (hmethod : r.method = "POST") (hallowed : .post ∈ x.allowed)
include hsegment hx hmethod hallowed

/-- A code that is presented is a transaction on its key. -/
theorem respond_presented {β : Type} {f : String → Option PromoCode → β × Option PromoCode}
    {g : β → Response} (hs : Text.allBlank s = false)
    (hhandle : (handle now ids x : StateM (Contents × ρ) (Option Response)) =
      PromoRouter.onStore (some <$> withCode segment fun code =>
        answer (KeyValue.transact (PromoCode.keyOf code) (f code)) g)) :
    (respond now ids r : StateM (Contents × ρ) (Option Response)) =
      TodoPromo.onStore (KeyValue.transact (PromoCode.keyOf s) (f s)) (reply r g) := by
  have hpost : r.method ≠ "HEAD" := by
    rw [hmethod]
    decide
  unfold LeadsTo at hx
  rw [segment_isEmpty hsegment hs, if_neg Bool.false_ne_true] at hx
  rw [respond_handled hx (by rw [hmethod]; rfl) hallowed, hhandle,
    withCode_some (decodeSegment?_encoded hsegment) hs]
  funext ⟨c, source⟩
  show (Option.map (fun a => (a.sentTo r).shared r) (some
      (answer (KeyValue.transact (PromoCode.keyOf s) (f s)) g c).1),
    ((answer (KeyValue.transact (PromoCode.keyOf s) (f s)) g c).2, source)) = _
  unfold TodoPromo.onStore
  cases houtcome : (KeyValue.transact (PromoCode.keyOf s) (f s)).outcome c with
  | mk result c' =>
      cases result with
      | ok b =>
          rw [answer_ok houtcome, Option.map_some, Response.sentTo_of_ne hpost]
          rfl
      | error e =>
          rw [answer_error houtcome, Option.map_some, Response.sentTo_of_ne hpost]
          rfl

theorem respond_blank {σ : Type} [KeyValue σ] {next : String → StateM σ Response}
    (hs : Text.allBlank s = true)
    (hhandle : (handle now ids x : StateM (σ × ρ) (Option Response)) =
      PromoRouter.onStore (some <$> withCode segment next)) :
    (respond now ids r : StateM (σ × ρ) (Option Response)) = pure (some (noCode.shared r)) := by
  have hpost : r.method ≠ "HEAD" := by
    rw [hmethod]
    decide
  have hname : Method.ofName? r.method = some .post := by
    rw [hmethod]
    rfl
  have hrefused : ∀ {y : Resource}, Resource.ofTarget? r.target = some y → .post ∈ y.allowed →
      (handle now ids y : StateM (σ × ρ) (Option Response)) = pure (some noCode) →
      (respond now ids r : StateM (σ × ρ) (Option Response)) = pure (some (noCode.shared r)) := by
    intro y hy hpostAllowed hnoCode
    rw [respond_handled hy hname hpostAllowed, hnoCode, map_pure, Option.map_some,
      Response.sentTo_of_ne hpost]
  unfold LeadsTo at hx
  cases hempty : segment.isEmpty with
  | true =>
      rw [hempty, if_pos rfl] at hx
      exact hrefused hx (by decide) rfl
  | false =>
      rw [hempty, if_neg Bool.false_ne_true] at hx
      apply hrefused hx hallowed
      rw [hhandle, withCode_blank (decodeSegment?_encoded hsegment) hs]
      rfl

end

/-- An answer with a verdict. -/
def written (v : Validation) : Response := .json (statusOf v.valid) (Json.encode v)

def writtenRedemption (v : Redemption) : Response := .json (statusOf v.valid) (Json.encode v)

theorem respond_validate (hsegment : Text.PercentEncodes segment.toList (Text.encode s))
    (hr : r.Posts ("/validate/" ++ segment)) (hs : Text.allBlank s = false) :
    (respond now ids r : StateM (Contents × ρ) (Option Response)) =
      TodoPromo.onStore (KeyValue.transact (PromoCode.keyOf s) (Promo.validated now s))
        (reply r written) := by
  apply respond_presented hsegment (leadsTo_validate hsegment hr) hr.method (List.mem_singleton_self _) hs
  unfold handle
  simp only [Promo.validate_eq_transact]
  rfl

theorem respond_redeem (hsegment : Text.PercentEncodes segment.toList (Text.encode s))
    (hr : r.Posts ("/apply/" ++ segment)) (hs : Text.allBlank s = false) :
    (respond now ids r : StateM (Contents × ρ) (Option Response)) =
      TodoPromo.onStore (KeyValue.transact (PromoCode.keyOf s) (Promo.redeemed now s))
        (reply r writtenRedemption) := by
  apply respond_presented hsegment (leadsTo_redeem hsegment hr) hr.method (List.mem_singleton_self _) hs
  unfold handle
  simp only [Promo.redeem_eq_transact]
  rfl

/-- What is answered to a code that is validated and redeemed in the same state: both bodies read back as
this verdict, which is on the code as it was presented, and the status says the same. -/
structure Echoes (s : String) (verdict : Validation) (validated redeemed : Response) : Prop where
  code : verdict.code = s
  body : Json.decode validated.body = .ok verdict
  body_redeemed : Json.decode redeemed.body = .ok verdict.toRedemption
  status : validated.status = if verdict.valid then 200 else 400
  status_redeemed : redeemed.status = if verdict.valid then 200 else 400

/-- In a text of which every byte is percent-encoded, any code reaches the store: what is done hangs on its
key alone, and if that is free or holds a code with a finite discount, then the answers are JSON with the
code itself, letter by letter, and with one verdict. A blank code, or none at all, is refused by every
store alike. Every store without faults answers as the table that it holds. -/
theorem presented_echoed {s segment : String}
    (hsegment : Text.PercentEncodes segment.toList (Text.encode s)) {v a : Request}
    (hv : v.Posts ("/validate/" ++ segment)) (ha : a.Posts ("/apply/" ++ segment)) (now : Time.Instant)
    (ids : List String) :
    (Text.trim s ≠ "" →
      ActsOn (PromoCode.keyOf s) (respond now ids v : StateM (Contents × ρ) (Option Response)) ∧
      ActsOn (PromoCode.keyOf s) (respond now ids a : StateM (Contents × ρ) (Option Response)) ∧
      ∀ (c : Contents) (source : ρ), (respond now ids v (c, source)).2 = (c, source) ∧
        (c.Legible (PromoCode.keyOf s) → ∃ validated redeemed verdict,
          (respond now ids v (c, source)).1 = some validated ∧
          (respond now ids a (c, source)).1 = some redeemed ∧ Echoes s verdict validated redeemed)) ∧
    (Text.trim s = "" → ∀ (σ : Type) [KeyValue σ],
      (respond now ids v : StateM (σ × ρ) (Option Response)) =
        pure (some ((Response.text 400 "Bad Request").shared v)) ∧
      (respond now ids a : StateM (σ × ρ) (Option Response)) =
        pure (some ((Response.text 400 "Bad Request").shared a))) ∧
    ∀ (σ : Type) [KeyValue σ] (R : σ → Contents → Prop), FaultFree R →
      AnswersAs R (respond now ids v : StateM (σ × ρ) (Option Response)) (respond now ids v) ∧
      AnswersAs R (respond now ids a : StateM (σ × ρ) (Option Response)) (respond now ids a) := by
  refine ⟨fun hs => ?_, fun hs σ _ => ?_, fun σ _ R hR =>
    ⟨answersAs_table hR now ids v, answersAs_table hR now ids a⟩⟩
  · rw [ne_eq, Text.trim_eq_empty_iff, Bool.not_eq_true] at hs
    rw [respond_validate hsegment hv hs, respond_redeem hsegment ha hs]
    refine ⟨actsOn_transact _ _ _, actsOn_transact _ _ _, fun c source => ⟨?_, fun hlegible => ?_⟩⟩
    · rw [onStore_table]
      cases (c.stored? (PromoCode.keyOf s) : Except ActionError (Option PromoCode)) with
      | ok c? => rfl
      | error e => rfl
    · obtain ⟨c?, hstored, hfinite⟩ := hlegible.stored?
      have hdiscount := Promo.finite_judged now s hfinite
      rw [← Json.Kind.isSome_reread_single] at hdiscount
      obtain ⟨discount, hdiscount⟩ := Option.isSome_iff_exists.mp hdiscount
      rw [onStore_table, onStore_table, hstored]
      refine ⟨_, _, { Promo.judged s (Promo.verdict now c?) with discount }, rfl, rfl, ?_⟩
      exact
        { code := Promo.code_judged
          body := decode_validation hdiscount
          body_redeemed := decode_redemption hdiscount
          status := rfl
          status_redeemed := rfl }
  · rw [Text.trim_eq_empty_iff] at hs
    constructor
    · apply respond_blank hsegment (leadsTo_validate hsegment hv) hv.method (List.mem_singleton_self _) hs
      rfl
    · apply respond_blank hsegment (leadsTo_redeem hsegment ha) ha.method (List.mem_singleton_self _) hs
      rfl

/-- A code with a dotted capital, a slash, and what looks like a slash that is encoded, in a store that holds
it under its key. -/
theorem presented_echoed_unusual :
    let s := "\u0130/%2f"
    let segment := "%C4%b0%2F%25%32%66"
    let v : Request := ⟨"POST", "/validate/" ++ segment ++ "?x=/", [], []⟩
    let a : Request := ⟨"POST", "/apply/" ++ segment, [], [0xFF]⟩
    let now : Time.Instant := ⟨19800, 0, 0, by decide, by decide, by decide, by decide, by decide⟩
    let code : Bytes := Text.encode ("\x7b\"code\":\"\",\"validFrom\":\"2024-01-01T00:00:00Z\"," ++
      "\"validTo\":\"2024-07-01T00:00:00Z\",\"discount\":0.25,\"used\":false\x7d")
    let t : Contents × Scripted := (Table.ofList [("i\u0307/%2f", code)], ⟨[], [], []⟩)
    Text.PercentEncodes segment.toList (Text.encode s) ∧ v.Posts ("/validate/" ++ segment) ∧
      a.Posts ("/apply/" ++ segment) ∧ PromoCode.keyOf s = "i\u0307/%2f" ∧ t.1.Legible (PromoCode.keyOf s) ∧
      ∃ validated redeemed verdict, (respond now [] v t).1 = some validated ∧
        (respond now [] a t).1 = some redeemed ∧ verdict.valid = true ∧
        Echoes s verdict validated redeemed ∧ FaultFree (Eq : Contents → Contents → Prop) ∧
        AnswersAs Eq (respond now [] v : StateM (Contents × Scripted) (Option Response))
          (respond now [] v) := by
  intro s segment v a now code t
  have hencode : Text.encode s = [0xC4, 0xB0, 0x2F, 0x25, 0x32, 0x66] := by decide
  have hsegment : Text.PercentEncodes segment.toList (Text.encode s) := by
    have hlist : segment.toList = ['%', 'C', '4', '%', 'b', '0', '%', '2', 'F', '%', '2', '5', '%', '3', '2',
        '%', '6', '6'] := by decide
    rw [hencode, hlist]
    exact .cons (by decide) (by decide) (.cons (by decide) (by decide) (.cons (by decide) (by decide)
      (.cons (by decide) (by decide) (.cons (by decide) (by decide) (.cons (by decide) (by decide) .nil)))))
  have hv : v.Posts ("/validate/" ++ segment) := ⟨rfl, "?x=/", rfl, .inr rfl⟩
  have ha : a.Posts ("/apply/" ++ segment) := ⟨rfl, "", rfl, .inl rfl⟩
  have hkey : PromoCode.keyOf s = "i\u0307/%2f" := by decide +kernel
  have hlegible : t.1.Legible (PromoCode.keyOf s) := by
    rw [hkey]
    have hread : (Json.decode code : Except Json.Failure PromoCode).toOption.any (·.discount.isFinite) =
        true := by
      decide +kernel
    cases hdecode : (Json.decode code : Except Json.Failure PromoCode) with
    | ok c =>
        rw [hdecode] at hread
        exact .inr ⟨code, c, rfl, hdecode, hread⟩
    | error e =>
        rw [hdecode] at hread
        cases hread
  have hnotBlank : Text.trim s ≠ "" := by decide +kernel
  obtain ⟨hpresented, -, hfaultFree⟩ := presented_echoed (ρ := Scripted) hsegment hv ha now []
  obtain ⟨-, -, hrequests⟩ := hpresented hnotBlank
  obtain ⟨validated, redeemed, verdict, hvalidated, hredeemed, hechoes⟩ := (hrequests t.1 t.2).2 hlegible
  have hstatus : (respond now [] v t).1.map Response.status = some 200 := by decide +kernel
  have hvalid : verdict.valid = true := by
    rw [hvalidated, Option.map_some, hechoes.status] at hstatus
    cases hv : verdict.valid with
    | true => rfl
    | false => simp [hv] at hstatus
  exact ⟨hsegment, hv, ha, hkey, hlegible, validated, redeemed, verdict, hvalidated, hredeemed, hvalid,
    hechoes, faultFree_table, (hfaultFree Contents Eq faultFree_table).1⟩

end PromoRouter
end TodoPromo
