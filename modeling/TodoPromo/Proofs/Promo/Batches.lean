import TodoPromo.Proofs.Services.Concealment
import TodoPromo.Proofs.Services.Tables
import TodoPromo.Proofs.Store.Recorded

/-! # Batches of codes

A batch of codes is written with one call for each code, in order, and ends with the first call that
fails. Whatever the plan of faults is, the codes before that call are kept and the others are not
(`keepsPrefix_writeAll`). Sample codes are such a batch: all of them are generated before the first one is
written, and a request for them is answered with the codes that were written, or with the failure
(`batches_keep_prefix`). -/

namespace TodoPromo

open Http

variable {φ ρ : Type} [FaultPlan φ] [NumberSource ρ]

namespace Promo

/-! ### Written batches -/

/-- The call that writes a code. -/
def writing (code : PromoCode) : Made := ⟨.set, code.key, some (Json.encode code)⟩

/-- What became of a batch whose first `i` codes are kept. The next call, if there is a next code, is
the last one, and its failure is the outcome. -/
structure KeepsPrefix (codes : List PromoCode) (i : Nat) (s s' : Recorded (Faulty Contents φ))
    (written : Except ActionError Unit) : Prop where
  /-- No call is made but the writing of these codes, in this order. -/
  calls : s'.calls = s.calls ++ (codes.take (i + 1)).map writing
  count : s'.calls.length = s.calls.length + min (i + 1) codes.length
  /-- The first codes are put into the table one after another. -/
  stored : s'.store.store = s.store.store.storing (entriesOf (codes.take i))
  untouched : ∀ key, (∀ code ∈ codes.take i, code.key ≠ key) →
    s'.store.store.get? key = s.store.store.get? key
  ok_iff : written = .ok () ↔ i = codes.length
  error : ∀ e, written = .error e → FaultPlan.writeFault? s.store.plan i = some e
  /-- All this holds as well when the calls are not taken down. -/
  unrecorded : (writeAll codes).outcome s.store = (written, s'.store)

theorem write_recorded (code : PromoCode) (s : Recorded (Faulty Contents φ)) :
    ∃ writes,
      (∃ e, (FaultPlan.strike .set s.store.plan).1 = some e ∧
        (KeyValue.write code.key code).outcome s =
          (.error e, ⟨.asked [.set] writes s.store, s.calls ++ [writing code]⟩)) ∨
      (FaultPlan.strike .set s.store.plan).1 = none ∧
        (KeyValue.write code.key code).outcome s =
          (.ok (), ⟨⟨s.store.store.insert code.key (Json.encode code),
            FaultPlan.after [.set] s.store.plan, writes⟩, s.calls ++ [writing code]⟩) := by
  have hnote : (KeyValue.write code.key code : Action (Recorded (Faulty Contents φ)) Unit).outcome s =
      (((KeyValue.write code.key code).outcome s.store).1,
        ⟨((KeyValue.write code.key code).outcome s.store).2, s.calls ++ [writing code]⟩) := rfl
  obtain ⟨writes, ⟨e, hstruck, hwrite⟩ | ⟨hstruck, hwrite⟩⟩ :=
    KeyValue.write_faulty code.key code s.store
  · exact ⟨writes, .inl ⟨e, hstruck, by rw [hnote, hwrite]⟩⟩
  · exact ⟨writes, .inr ⟨hstruck, by rw [hnote, hwrite]⟩⟩

/-- A batch is written up to the first call that fails. -/
theorem writeAll_recorded (codes : List PromoCode) (s : Recorded (Faulty Contents φ)) :
    let i := FaultPlan.writesBefore s.store.plan codes.length
    ∃ written plan writes, (writeAll codes).outcome s =
        (written, ⟨⟨s.store.store.storing (entriesOf (codes.take i)), plan, writes⟩,
          s.calls ++ (codes.take (i + 1)).map writing⟩) ∧
      (i = codes.length ∧ written = .ok () ∨
        i < codes.length ∧ ∃ e, FaultPlan.writeFault? s.store.plan i = some e ∧ written = .error e) := by
  induction codes generalizing s with
  | nil =>
      refine ⟨.ok (), s.store.plan, s.store.writes, ?_, .inl ⟨rfl, rfl⟩⟩
      rw [List.take_nil, List.take_nil, List.map_nil, List.append_nil]
      rfl
  | cons code codes ih =>
      intro i
      have hi : i = _ := FaultPlan.writesBefore_succ s.store.plan codes.length
      clear_value i
      unfold writeAll
      obtain ⟨writes, ⟨e, hstruck, hwrite⟩ | ⟨hstruck, hwrite⟩⟩ := write_recorded code s
      · rw [hstruck, Option.isSome_some, if_pos rfl] at hi
        subst hi
        exact ⟨.error e, _, writes, Action.outcome_bind_error hwrite,
          .inr ⟨Nat.succ_pos _, e, hstruck, rfl⟩⟩
      · rw [hstruck, Option.isSome_none, if_neg Bool.false_ne_true] at hi
        obtain ⟨written, plan, writes', hrest, hend⟩ := ih
          ⟨⟨s.store.store.insert code.key (Json.encode code), FaultPlan.after [.set] s.store.plan,
            writes⟩, s.calls ++ [writing code]⟩
        subst hi
        refine ⟨written, plan, writes', ?_, ?_⟩
        · rw [Action.outcome_bind_ok hwrite, hrest, List.append_assoc]
          rfl
        · rw [List.length_cons, Nat.add_right_cancel_iff, Nat.add_lt_add_iff_right]
          exact hend

/-- Of a batch exactly the codes before the first failing call are kept. -/
theorem keepsPrefix_writeAll (codes : List PromoCode) (s : Recorded (Faulty Contents φ)) :
    KeepsPrefix codes (FaultPlan.writesBefore s.store.plan codes.length) s
      ((writeAll codes).outcome s).2 ((writeAll codes).outcome s).1 := by
  obtain ⟨written, plan, writes, hout, hend⟩ := writeAll_recorded codes s
  have hplain := Recorded.outcome_writeAll codes s
  rw [hout] at hplain ⊢
  refine ⟨rfl, ?_, rfl, ?_, ?_, ?_, hplain⟩
  · rw [List.length_append, List.length_map, List.length_take]
  · exact fun key hkey => Contents.get?_storing (ne_of_mem_entriesOf hkey) s.store.store
  · obtain ⟨hi, rfl⟩ | ⟨hi, e, -, rfl⟩ := hend
    · exact ⟨fun _ => hi, fun _ => rfl⟩
    · exact ⟨fun h => (nomatch h), fun h => absurd h (Nat.ne_of_lt hi)⟩
  · rintro e rfl
    obtain ⟨-, h⟩ | ⟨-, e', hstruck, h⟩ := hend
    · cases h
    · cases h
      exact hstruck

end Promo

/-! ### Requests for sample codes -/

namespace PromoRouter

/-- A request to store sample codes. -/
def AsksForSamples (r : Request) : Prop :=
  Resource.ofTarget? r.target = some .sampleCodes ∧ r.method = "POST"

/-- What the response to a request for sample codes tells, when these codes were generated and then
written to what is now this table. -/
structure TellsOf (r : Request) (codes : List PromoCode) (written : Except ActionError Unit)
    (c : Contents) (a : Response) : Prop where
  created : a.status = 201 ↔ written = .ok ()
  listed : a.status = 201 → a.body = Json.encode codes
  /-- Under the key of each code it is found, or a later one of the same key. -/
  found : a.status = 201 → ∀ code ∈ codes, ∃ last ∈ codes, last.key = code.key ∧
    c.get? code.key = some (Json.encode last)
  own : a.status = 201 → (codes.map PromoCode.key).Nodup →
    ∀ code ∈ codes, c.get? code.key = some (Json.encode code)
  failed : a.status = 500 ↔ ∃ detail, written = .error (.storage detail)
  concealed : a.status = 500 → a = concealed r

theorem tellsOf_created {r : Request} (hmethod : r.method = "POST") (codes : List PromoCode)
    (c : Contents) :
    TellsOf r codes (.ok ()) (c.storing (Promo.entriesOf codes))
      (((Response.json 201 (Json.encode codes)).sentTo r).shared r) := by
  have hstatus : 201 ≠ 500 := by decide
  rw [Response.sentTo_of_ne (by rw [hmethod]; decide)]
  refine ⟨⟨fun _ => rfl, fun _ => rfl⟩, fun _ => rfl, fun _ code hcode => ?_,
    fun _ hkeys code hcode => ?_, ⟨fun h => absurd h hstatus, fun ⟨_, h⟩ => nomatch h⟩,
    fun h => absurd h hstatus⟩
  · have he : (code.key, Json.encode code) ∈ Promo.entriesOf codes := List.mem_map_of_mem hcode
    obtain ⟨e, hmem, hkey, hget⟩ := Contents.exists_get?_storing he c
    obtain ⟨last, hlast, rfl⟩ := List.mem_map.mp hmem
    exact ⟨last, hlast, hkey, hget⟩
  · rw [← Promo.keys_entriesOf] at hkeys
    exact Contents.get?_storing_of_mem hkeys (List.mem_map_of_mem hcode) c

theorem tellsOf_failed (r : Request) (codes : List PromoCode) (c : Contents) (e : ActionError) :
    TellsOf r codes (.error e) c (((Response.ofActionError e).sentTo r).shared r) := by
  have hrefused : (((Response.ofActionError e).sentTo r).shared r).status ≠ 201 := by
    have hrefuses : 400 ≤ (((Response.ofActionError e).sentTo r).shared r).status :=
      (Response.refuses_ofActionError e).sentTo r
    omega
  have hfailed : (((Response.ofActionError e).sentTo r).shared r).status = 500 ↔
      ∃ detail, e = .storage detail := by
    change ((Response.ofActionError e).sentTo r).status = 500 ↔ _
    rw [Response.status_sentTo, status_ofActionError, ActionError.isStorage_iff]
  refine ⟨⟨fun h => absurd h hrefused, fun h => (nomatch h)⟩, fun h => absurd h hrefused,
    fun h => absurd h hrefused, fun h => absurd h hrefused, ?_, fun h => ?_⟩
  · simpa only [Except.error.injEq] using hfailed
  · obtain ⟨detail, rfl⟩ := hfailed.mp h
    exact concealed_eq r detail

section
variable {now : Time.Instant} {ids : List String} {source source' : ρ} {r : Request}

theorem respond_samples {σ : Type} [KeyValue σ] (h : AsksForSamples r) (s : σ) :
    respond now ids r (s, source) =
      ((sampleResponse now ids (s, source)).1.map fun a => (a.sentTo r).shared r,
        (sampleResponse now ids (s, source)).2) := by
  have hallowed : .post ∈ Resource.sampleCodes.allowed := by decide
  rw [respond_handled h.1 (by rw [h.2]; rfl) hallowed]
  rfl

theorem respond_written (hr : AsksForSamples r) {codes : List PromoCode}
    (hgenerate : Sample.generate now ids source = (.some codes, source'))
    {s s' : Recorded (Faulty Contents φ)} {written : Except ActionError Unit} {i : Nat}
    (hout : (Promo.writeAll codes).outcome s = (written, s'))
    (hkeeps : Promo.KeepsPrefix codes i s s' written) :
    ∃ a, respond now ids r (s, source) = (.some a, (s', source')) ∧
      TellsOf r codes written s'.store.store a := by
  rw [respond_samples hr, sampleResponse_generated hgenerate]
  cases written with
  | ok u =>
      rw [answer_ok hout]
      refine ⟨_, rfl, ?_⟩
      rw [hkeeps.stored, hkeeps.ok_iff.mp rfl, List.take_length]
      exact tellsOf_created hr.2 codes s.store.store
  | error e =>
      rw [answer_error hout]
      exact ⟨_, rfl, tellsOf_failed r codes s'.store.store e⟩

end
end PromoRouter

open PromoRouter in
/-- Of a batch of codes exactly those are kept that are written before the first failure. Sample codes
are generated before anything is written, and are then a batch; the response to a request for them
tells what became of it. -/
theorem batches_keep_prefix (now : Time.Instant) (ids : List String) (source : ρ)
    (s : Recorded (Faulty Contents φ)) :
    (∀ codes, ∃ written s', (Promo.writeAll codes).outcome s = (written, s') ∧
      Promo.KeepsPrefix codes (FaultPlan.writesBefore s.store.plan codes.length) s s' written) ∧
    (∀ source', Sample.generate now ids source = (none, source') →
      Promo.seed now ids source s = ((.error .beyondCalendar, source'), s) ∧
        ∀ r, AsksForSamples r → respond now ids r (s, source) = (none, (s, source'))) ∧
    ∀ codes source', Sample.generate now ids source = (some codes, source') →
      codes.map PromoCode.code = ids ∧ ∃ written s',
        Promo.KeepsPrefix codes (FaultPlan.writesBefore s.store.plan ids.length) s s' written ∧
        Promo.seed now ids source s =
          (((written.map fun _ => codes).mapError .service, source'), s') ∧
        ∀ r, AsksForSamples r → ∃ a, respond now ids r (s, source) = (some a, (s', source')) ∧
          TellsOf r codes written s'.store.store a := by
  refine ⟨fun codes => ⟨_, _, rfl, Promo.keepsPrefix_writeAll codes s⟩, fun source' hgenerate => ?_,
    fun codes source' hgenerate => ?_⟩
  · refine ⟨Promo.seed_beyond hgenerate s, fun r hr => ?_⟩
    rw [respond_samples hr, sampleResponse_beyond hgenerate]
    rfl
  · have hcodes := Promo.codes_of_generate hgenerate
    have hkeeps := Promo.keepsPrefix_writeAll codes s
    refine ⟨hcodes, _, _, ?_, Promo.seed_generated hgenerate s, fun r hr =>
      respond_written hr hgenerate rfl hkeeps⟩
    rw [← hcodes, List.length_map]
    exact hkeeps

open PromoRouter in
theorem batches_keep_prefix_disk_full :
    let now : Time.Instant := ⟨19800, 0, 0, by decide, by decide, by decide, by decide, by decide⟩
    let last : Time.Instant :=
      ⟨Time.lastDay, 0, 0, by decide, by decide, by decide, by decide, by decide⟩
    let ids := ["B", "a", "b"]
    let source : Scripted := ⟨[3, 29], [], []⟩
    let s : Recorded (Faulty Contents (List FaultRule)) :=
      ⟨⟨Table.empty.insert "b" [0x5B], [⟨.set, 2, none, .storage "disk full"⟩], 0⟩, []⟩
    let r : Request := ⟨"POST", "/seed-promocodes", [], []⟩
    AsksForSamples r ∧
    (∃ codes source' s', Sample.generate now ids source = (some codes, source') ∧
      Promo.KeepsPrefix codes 2 s s' (.error (.storage "disk full")) ∧
      respond now ids r (s, source) = (some (concealed r), (s', source'))) ∧
    ∃ source', Sample.generate last ids source = (none, source') ∧
      respond last ids r (s, source) = (none, (s, source')) := by
  intro now last ids source s r
  have hr : AsksForSamples r := ⟨by decide +kernel, rfl⟩
  obtain ⟨-, -, hgenerated⟩ := batches_keep_prefix now ids source s
  obtain ⟨-, hbeyond, -⟩ := batches_keep_prefix last ids source s
  obtain ⟨codes, source', hgenerate⟩ :
      ∃ codes source', Sample.generate now ids source = (some codes, source') := ⟨_, _, rfl⟩
  obtain ⟨source'', hnone⟩ :
      ∃ source', Sample.generate last ids source = (none, source') := ⟨_, rfl⟩
  obtain ⟨hcodes, written, s', hkeeps, -, hanswer⟩ := hgenerated codes source' hgenerate
  obtain ⟨a, ha, htells⟩ := hanswer r hr
  have hlength : codes.length = 3 := by rw [← List.length_map, hcodes]; rfl
  refine ⟨hr, ⟨codes, source', s', hgenerate, ?_⟩, source'', hnone, (hbeyond source'' hnone).2 r hr⟩
  cases written with
  | ok u => exact absurd (hkeeps.ok_iff.mp rfl) (by rw [hlength]; decide)
  | error e =>
      obtain rfl : ActionError.storage "disk full" = e := Option.some.inj (hkeeps.error e rfl)
      have ha' := htells.concealed (htells.failed.mpr ⟨_, rfl⟩)
      exact ⟨hkeeps, ha' ▸ ha⟩

end TodoPromo
