import TodoPromo.Proofs.Services.Tables
import TodoPromo.Random.Scripted

/-! # The two services beside each other

Both services keep their values in one store without faults: the todo list under a key of its own,
each code under the key that it spells. Every call on the todo list is answered as if the other
service did not exist, and so is every call on the codes, with one exception, which
`answered_alone_iff` states exactly: once the list is stored, a presented code that spells the key
of the list is no longer unknown but a failure of the storage. What carries the proof is `Beside`,
which relates the store of both services to one store for each of them alone. -/

namespace TodoPromo

open TodoList (listKey)

/-! ### Tables that agree -/

namespace Contents

/-- The tables hold the same under every other key. -/
def AgreeOff (key : String) (c c' : Contents) : Prop :=
  ∀ key', key' ≠ key → c.get? key' = c'.get? key'

variable {key : String} {c c' : Contents}

theorem AgreeOff.insert (h : AgreeOff key c c') (key' : String) (bs : Bytes) :
    AgreeOff key (c.insert key' bs) (c'.insert key' bs) := by
  intro key'' hne
  rw [Table.get?_insert, Table.get?_insert, h key'' hne]

theorem AgreeOff.storing (h : AgreeOff key c c') (entries : List (String × Bytes)) :
    AgreeOff key (c.storing entries) (c'.storing entries) := by
  induction entries generalizing c c' with
  | nil => exact h
  | cons e entries ih => exact ih (h.insert e.1 e.2)

variable {α : Type} [Json.Coded α]

theorem AgreeOff.commit (h : AgreeOff key c c') (key' : String) (next? : Option α) :
    AgreeOff key (c.commit key' next?) (c'.commit key' next?) := by
  cases next? with
  | none => exact h
  | some a => exact h.insert key' (Json.encode a)

theorem AgreeOff.commit_left (h : AgreeOff key c c') (next? : Option α) :
    AgreeOff key (c.commit key next?) c' := by
  intro key' hne
  rw [get?_commit_of_ne hne.symm, h key' hne]

end Contents

/-! ### The key of the list as a code -/

namespace Operation

variable {ρ : Type} [NumberSource ρ] {op : Operation} {input : String} {c : Contents}

/-- The call presents a code that is looked up under this key. -/
def Presents (key : String) (op : Operation) : Prop := op.input?.map PromoCode.keyOf = some key

theorem presents_iff {key : String} (hinput : op.input? = some input) :
    op.Presents key ↔ PromoCode.keyOf input = key := by
  unfold Presents
  rw [hinput, Option.map_some, Option.some_inj]

theorem not_presents {key : String} (hinput : op.input? = none) : ¬ op.Presents key := by
  intro hpresents
  unfold Presents at hpresents
  rw [hinput] at hpresents
  cases hpresents

theorem stores_of_input?_eq_none (htodo : op.isTodo = false) (hinput : op.input? = none) :
    op.stores = true := by
  cases op with
  | todo call => cases htodo
  | put key value => rfl
  | promo call =>
      cases call with
      | validate now input => cases hinput
      | redeem now input => cases hinput
      | _ => rfl

theorem founds_of_isTodo_eq_false (htodo : op.isTodo = false) : op.founds = false := by
  cases op with
  | todo call => cases htodo
  | _ => rfl

theorem answered_error_ne_ok (op : Operation) (e : ActionError) (v : Validation) :
    op.answered (.error e) ≠ op.answered (.ok v) := by
  unfold answered
  split <;> simp [Except.map]

theorem perform_unlisted (hinput : op.input? = some input) (hkey : PromoCode.keyOf input = listKey)
    (hc : c.Lists none) (source : ρ) :
    op.perform (c, source) =
      (op.answered (.ok (.rejected input .unknownCode)), (c, source)) := by
  obtain ⟨now, next, hnext, hperform⟩ := perform_input (ρ := ρ) hinput
  have hstored : (c.stored? listKey : Except ActionError (Option PromoCode)) = .ok none := by
    unfold Contents.stored?
    rw [show c.get? listKey = none from hc]
  rw [hperform, hkey, hstored]
  simp only [hnext]
  rfl

/-- With a list its key is a failure of the storage, since no list reads as a code. -/
theorem perform_listed (hinput : op.input? = some input) (hkey : PromoCode.keyOf input = listKey)
    {ts : List Todo} (hc : c.Lists (some ts)) (source : ρ) :
    ∃ detail, op.perform (c, source) =
      (op.answered (.error (.storage detail)), (c, source)) := by
  obtain ⟨now, next, -, hperform⟩ := perform_input (ρ := ρ) hinput
  obtain ⟨e, he⟩ := decode_todos_as_code ts
  refine ⟨e.message, ?_⟩
  have hget : c.get? listKey = some (Json.encode ts) := hc
  rw [hperform, hkey, Contents.stored?_of_decode_error hget he]

end Operation

/-! ### One call -/

/-- One store in the use of both services, and one store for each service alone: the list is the
same where there are todos, and the rest is the same where there are codes. -/
structure Beside (ts? : Option (List Todo)) (both todos codes : Contents) : Prop where
  listed : both.Lists ts?
  listedAlone : todos.Lists ts?
  agree : both.AgreeOff listKey codes
  unlisted : codes.Lists none

/-- How the reply to a call in the use of both services compares to the reply to the service alone:
they are the same, unless the key of the stored list is presented. -/
inductive Compares (listed : Prop) (op : Operation) : Reply → Reply → Prop where
  | same {reply : Reply} (h : ¬ (op.Presents listKey ∧ listed)) : Compares listed op reply reply
  | refused {input : String} (detail : String) (hinput : op.input? = some input)
      (hkey : PromoCode.keyOf input = listKey) (h : listed) :
      Compares listed op (op.answered (.error (.storage detail)))
        (op.answered (.ok (.rejected input .unknownCode)))

theorem Compares.eq_iff {listed : Prop} {op : Operation} {shared alone : Reply}
    (h : Compares listed op shared alone) :
    shared = alone ↔ ¬ (op.Presents listKey ∧ listed) := by
  cases h with
  | same h => exact ⟨fun _ => h, fun _ => rfl⟩
  | refused detail hinput hkey h =>
      constructor
      · intro heq
        exact absurd heq (op.answered_error_ne_ok _ _)
      · intro hnot
        exact absurd ⟨(Operation.presents_iff hinput).mpr hkey, h⟩ hnot

theorem Compares.answers {listed : Prop} {op : Operation} {shared alone : Reply}
    (h : Compares listed op shared alone) {input : String} (hinput : op.input? = some input)
    (hkey : PromoCode.keyOf input = listKey) (hlisted : listed) :
    ∃ detail, shared = op.answered (.error (.storage detail)) ∧
      alone = op.answered (.ok (.rejected input .unknownCode)) := by
  cases h with
  | same h => exact absurd ⟨(Operation.presents_iff hinput).mpr hkey, hlisted⟩ h
  | refused detail hinput' =>
      obtain rfl := Option.some.inj (hinput.symm.trans hinput')
      exact ⟨detail, rfl, rfl⟩

namespace Beside

variable {ρ : Type} [NumberSource ρ] {ts? : Option (List Todo)} {c todos codes : Contents}

theorem todo (h : Beside ts? c todos codes) (call : TodoCall) (source source' : ρ) :
    ∃ reply c' todos',
      (Operation.todo call).perform (c, source) = (reply, (c', source)) ∧
      (Operation.todo call).perform (todos, source') = (reply, (todos', source')) ∧
      Beside ((call.outcome ts?).2.or ts?) c' todos' codes := by
  refine ⟨_, _, _, Operation.perform_todo h.listed call source,
    Operation.perform_todo h.listedAlone call source', ?_⟩
  exact ⟨h.listed.commit _, h.listedAlone.commit _, h.agree.commit_left _, h.unlisted⟩

theorem input (h : Beside ts? c todos codes) {op : Operation} {input : String}
    (hinput : op.input? = some input) (source : ρ) :
    ∃ shared alone c' codes',
      op.perform (c, source) = (shared, (c', source)) ∧
      op.perform (codes, source) = (alone, (codes', source)) ∧
      Beside ts? c' todos codes' ∧ Compares (ts?.isSome = true) op shared alone := by
  by_cases hkey : PromoCode.keyOf input = listKey
  · have halone := op.perform_unlisted hinput hkey h.unlisted source
    cases ts? with
    | none =>
        have hshared := op.perform_unlisted hinput hkey h.listed source
        exact ⟨_, _, _, _, hshared, halone, h, .same (by simp)⟩
    | some ts =>
        obtain ⟨detail, hshared⟩ := op.perform_listed hinput hkey h.listed source
        exact ⟨_, _, _, _, hshared, halone, h, .refused detail hinput hkey rfl⟩
  · obtain ⟨now, next, -, hperform⟩ := Operation.perform_input (ρ := ρ) hinput
    have hsame : ¬ (op.Presents listKey ∧ ts?.isSome = true) := by
      rintro ⟨hpresents, -⟩
      exact hkey ((Operation.presents_iff hinput).mp hpresents)
    have hstored : (c.stored? (PromoCode.keyOf input) : Except ActionError (Option PromoCode)) =
        codes.stored? (PromoCode.keyOf input) :=
      Contents.stored?_congr (h.agree _ hkey)
    have hshared := hperform c source
    have halone := hperform codes source
    rw [hstored] at hshared
    cases hc : (codes.stored? (PromoCode.keyOf input) : Except ActionError (Option PromoCode)) with
    | error e =>
        rw [hc] at hshared halone
        exact ⟨_, _, _, _, hshared, halone, h, .same hsame⟩
    | ok c? =>
        rw [hc] at hshared halone
        refine ⟨_, _, _, _, hshared, halone, ?_, .same hsame⟩
        exact ⟨h.listed.congr (Contents.get?_commit_of_ne hkey _), h.listedAlone,
          h.agree.commit _ _, h.unlisted.congr (Contents.get?_commit_of_ne hkey _)⟩

theorem stores (h : Beside ts? c todos codes) {op : Operation} (hstores : op.stores = true)
    (hspares : op.Spares listKey) (source : ρ) :
    ∃ reply c' codes' source',
      op.perform (c, source) = (reply, (c', source')) ∧
      op.perform (codes, source) = (reply, (codes', source')) ∧ Beside ts? c' todos codes' := by
  obtain ⟨reply, entries, source', hkeys, hperform⟩ := Operation.perform_stores hstores source
  refine ⟨reply, _, _, source', hperform c, hperform codes, ?_⟩
  have hget := fun c : Contents => Contents.get?_storing (hkeys listKey hspares) c
  exact ⟨h.listed.congr (hget c), h.listedAlone, h.agree.storing entries,
    h.unlisted.congr (hget codes)⟩

theorem other (h : Beside ts? c todos codes) {op : Operation} (htodo : op.isTodo = false)
    (hspares : op.Spares listKey) (source : ρ) :
    ∃ shared alone c' codes' source',
      op.perform (c, source) = (shared, (c', source')) ∧
      op.perform (codes, source) = (alone, (codes', source')) ∧
      Beside ts? c' todos codes' ∧ Compares (ts?.isSome = true) op shared alone := by
  cases hinput : op.input? with
  | some input =>
      obtain ⟨shared, alone, c', codes', hshared, halone, hnext, hcompares⟩ := h.input hinput source
      exact ⟨shared, alone, c', codes', source, hshared, halone, hnext, hcompares⟩
  | none =>
      have hstores := Operation.stores_of_input?_eq_none htodo hinput
      obtain ⟨reply, c', codes', source', hshared, halone, hnext⟩ := h.stores hstores hspares source
      refine ⟨reply, reply, c', codes', source', hshared, halone, hnext, .same ?_⟩
      rintro ⟨hpresents, -⟩
      exact Operation.not_presents hinput hpresents

/-- Every call is answered as it is answered alone, unless it presents the key of the list. -/
theorem compares (h : Beside ts? c todos codes) {op : Operation} (hspares : op.Spares listKey)
    (source start : ρ) :
    Compares (ts?.isSome = true) op (op.perform (c, source)).1
      (op.perform (if op.isTodo then (todos, start) else (codes, source))).1 := by
  cases htodo : op.isTodo with
  | true =>
      cases op with
      | put key value => cases htodo
      | promo call => cases htodo
      | todo call =>
          obtain ⟨reply, c', todos', hshared, halone, -⟩ := h.todo call source start
          rw [if_pos rfl, hshared, halone]
          refine .same ?_
          rintro ⟨hpresents, -⟩
          exact Operation.not_presents rfl hpresents
  | false =>
      obtain ⟨shared, alone, c', codes', source', hshared, halone, -, hcompares⟩ :=
        h.other htodo hspares source
      rw [if_neg (by simp), hshared, halone]
      exact hcompares

/-! ### Sequences of calls -/

theorem isSome_or_outcome (call : TodoCall) (ts? : Option (List Todo)) :
    ((call.outcome ts?).2.or ts?).isSome = (ts?.isSome || call.founds) := by
  cases ts? with
  | none => simp [Option.or_none, TodoCall.isSome_outcome_none]
  | some ts => simp

/-- The stores stay beside each other, and there is a list once a call wrote one. -/
theorem after (h : Beside ts? c todos codes) {ops : List Operation}
    (hspares : ∀ op ∈ ops, op.Spares listKey) (source start : ρ) :
    ∃ ts?' c' todos' codes' source',
      (run ops (c, source)).2 = (c', source') ∧
      (run (ops.filter fun op => op.isTodo == true) (todos, start)).2 = (todos', start) ∧
      (run (ops.filter fun op => op.isTodo == false) (codes, source)).2 = (codes', source') ∧
      Beside ts?' c' todos' codes' ∧
      ts?'.isSome = (ts?.isSome || ops.any Operation.founds) := by
  induction ops generalizing ts? c todos codes source with
  | nil => exact ⟨ts?, c, todos, codes, source, rfl, rfl, rfl, h, by simp⟩
  | cons op ops ih =>
      have hrest : ∀ op' ∈ ops, op'.Spares listKey := fun op' hop' => hspares op' (by simp [hop'])
      cases htodo : op.isTodo with
      | true =>
          cases op with
          | put key value => cases htodo
          | promo call => cases htodo
          | todo call =>
              obtain ⟨reply, c₁, todos₁, hshared, halone, hnext⟩ := h.todo call source start
              obtain ⟨ts?', c', todos', codes', source', hrun, hruntodos, hruncodes, hbeside,
                hlisted⟩ := ih hnext hrest source
              refine ⟨ts?', c', todos', codes', source', ?_, ?_, ?_, hbeside, ?_⟩
              · rw [run, hshared]
                exact hrun
              · rw [List.filter_cons_of_pos rfl, run, halone]
                exact hruntodos
              · rw [List.filter_cons_of_neg (by simp [Operation.isTodo])]
                exact hruncodes
              · rw [hlisted, isSome_or_outcome, List.any_cons, Bool.or_assoc]
                rfl
      | false =>
          obtain ⟨shared, alone, c₁, codes₁, source₁, hshared, halone, hnext, -⟩ :=
            h.other htodo (hspares op (by simp)) source
          obtain ⟨ts?', c', todos', codes', source', hrun, hruntodos, hruncodes, hbeside,
            hlisted⟩ := ih hnext hrest source₁
          refine ⟨ts?', c', todos', codes', source', ?_, ?_, ?_, hbeside, ?_⟩
          · rw [run, hshared]
            exact hrun
          · rw [List.filter_cons_of_neg (by simp [htodo])]
            exact hruntodos
          · rw [List.filter_cons_of_pos (by simp [htodo]), run, halone]
            exact hruncodes
          · rw [hlisted, List.any_cons, Operation.founds_of_isTodo_eq_false htodo, Bool.false_or]

end Beside

/-- The calls of the same service as this one. -/
def Operation.own (op : Operation) (ops : List Operation) : List Operation :=
  ops.filter fun op' => op'.isTodo == op.isTodo

/-- Starting from an empty store, every call is answered as it is answered when only the calls of
its own service are made, exactly if it is not a presented code that spells the key of the list
after the list was first written. Such a code is a failure of the storage, though the codes alone
do not know it. -/
theorem answered_alone_iff {ρ : Type} [NumberSource ρ] {before after : List Operation}
    {op : Operation} (hspares : ∀ op' ∈ before ++ op :: after, op'.Spares listKey)
    (source : ρ) :
    ∃ shared alone,
      (run (before ++ op :: after) ((∅ : Contents), source)).1[before.length]? = some shared ∧
      (run (op.own (before ++ op :: after)) ((∅ : Contents), source)).1[(op.own before).length]? =
        some alone ∧
      (shared = alone ↔ ¬ (op.Presents listKey ∧ before.any Operation.founds = true)) ∧
      ∀ input, op.input? = some input → PromoCode.keyOf input = listKey →
        before.any Operation.founds = true →
        ∃ detail, shared = op.answered (.error (.storage detail)) ∧
          alone = op.answered (.ok (.rejected input .unknownCode)) := by
  have hempty : Beside none (∅ : Contents) ∅ ∅ := ⟨rfl, rfl, fun key hne => rfl, rfl⟩
  have hbefore : ∀ op' ∈ before, op'.Spares listKey := fun op' hop' => hspares op' (by simp [hop'])
  obtain ⟨ts?, c, todos, codes, source', hrun, hruntodos, hruncodes, hbeside, hlisted⟩ :=
    hempty.after hbefore source source
  have hown : op.own (before ++ op :: after) = op.own before ++ op :: op.own after := by
    unfold Operation.own
    rw [List.filter_append, List.filter_cons_of_pos (by simp)]
  rw [hown, getElem?_run, getElem?_run, hrun]
  have hownrun : (run (op.own before) ((∅ : Contents), source)).2 =
      if op.isTodo then (todos, source) else (codes, source') := by
    unfold Operation.own
    cases op.isTodo with
    | true => exact hruntodos
    | false => exact hruncodes
  have hcompares := hbeside.compares (hspares op (by simp)) source' source
  rw [hlisted, Option.isSome_none, Bool.false_or, ← hownrun] at hcompares
  exact ⟨_, _, rfl, rfl, hcompares.eq_iff, fun input => hcompares.answers⟩

theorem answered_alone_iff_capitals :
    let now : Time.Instant := ⟨19800, 0, 0, by decide, by decide, by decide, by decide, by decide⟩
    let source : Scripted := ⟨[3], [Single.zero], []⟩
    let before : List Operation := [.promo (.seed now ["5d1f"]), .todo (.add "1" "milk")]
    let op : Operation := .promo (.redeem now "ALL_TODOS")
    let after : List Operation := [.promo (.redeem now "5D1F"), .todo .list]
    (∀ op' ∈ before ++ op :: after, op'.Spares listKey) ∧ ∃ shared alone,
      (run (before ++ op :: after) ((∅ : Contents), source)).1[2]? = some shared ∧
      (run (op.own (before ++ op :: after)) ((∅ : Contents), source)).1[1]? = some alone ∧
      shared ≠ alone := by
  intro now source before op after
  have hid : PromoCode.keyOf "5d1f" ≠ listKey := by decide +kernel
  have hspares : ∀ op' ∈ before ++ op :: after, op'.Spares listKey := by
    simp [before, op, after, Operation.Spares, hid]
  have hpresents : op.Presents listKey := (Operation.presents_iff rfl).mpr (by decide +kernel)
  obtain ⟨shared, alone, hshared, halone, hiff, -⟩ := answered_alone_iff hspares source
  refine ⟨hspares, shared, alone, hshared, halone, ?_⟩
  intro heq
  exact hiff.mp heq ⟨hpresents, rfl⟩

/-- So the services are not independent: clearing an empty list changes the answer to a code. -/
theorem not_independent :
    ¬ ∀ (before after : List Operation) (op : Operation) (source : Scripted),
      (∀ op' ∈ before ++ op :: after, op'.Spares listKey) →
      (run (before ++ op :: after) ((∅ : Contents), source)).1[before.length]? =
        (run (op.own (before ++ op :: after)) ((∅ : Contents), source)).1[(op.own before).length]? := by
  intro hsame
  let now : Time.Instant := ⟨19800, 0, 0, by decide, by decide, by decide, by decide, by decide⟩
  let op : Operation := .promo (.validate now "all_todos")
  let s : Contents × Scripted := (∅, ⟨[], [], []⟩)
  have hkey : PromoCode.keyOf "all_todos" = listKey := by decide +kernel
  have hlists : (run [.todo .clearCompleted] s).2.1.Lists (some []) := by
    unfold Contents.Lists
    decide +kernel
  have halone := op.perform_unlisted rfl hkey (c := (∅ : Contents)) rfl s.2
  obtain ⟨detail, hshared⟩ := op.perform_listed rfl hkey hlists s.2
  have hreplies : some (op.perform ((run [.todo .clearCompleted] s).2.1, s.2)).1 =
      some (op.perform (∅, s.2)).1 :=
    hsame [.todo .clearCompleted] [] op s.2 (by simp [op, Operation.Spares])
  rw [hshared, halone] at hreplies
  exact op.answered_error_ne_ok _ _ (Option.some.inj hreplies)

end TodoPromo
