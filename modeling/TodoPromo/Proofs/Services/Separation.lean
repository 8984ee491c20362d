import TodoPromo.Proofs.Services.Independence

/-! # Codes apart from each other

What a presented code is answered, and what is stored under its key, hangs on the calls that concern
that key and on nothing else: leave out of any sequence of calls those that concern other keys only,
and out of every list of codes to store the codes with other keys, and the same answers are given and
the same bytes stay (`answered_apart`). Two stores that hold the same under a key are taken by a call
to stores that do so again (`perform_concerning`), and a call that is left out does not change what
is under the key (`perform_unconcerned`). -/

namespace TodoPromo

open TodoList (listKey)

/-! ### One key of a table -/

namespace Contents

variable {key : String} {c c' : Contents}

theorem get?_storing_filter (h : c.get? key = c'.get? key) (entries : List (String × Bytes)) :
    (c.storing entries).get? key = (c'.storing (entries.filter (·.1 = key))).get? key := by
  induction entries generalizing c c' with
  | nil => exact h
  | cons e entries ih =>
      by_cases hkey : e.1 = key
      · rw [List.filter_cons_of_pos (by simpa using hkey)]
        refine ih ?_
        rw [Table.get?_insert, Table.get?_insert, h]
      · rw [List.filter_cons_of_neg (by simpa using hkey)]
        refine ih ?_
        rw [Table.get?_insert, if_neg hkey, h]

theorem get?_storing_congr (h : c.get? key = c'.get? key) (entries : List (String × Bytes)) :
    (c.storing entries).get? key = (c'.storing entries).get? key :=
  (get?_storing_filter h entries).trans (get?_storing_filter rfl entries).symm

theorem get?_commit_congr {α : Type} [Json.Coded α] (h : c.get? key = c'.get? key)
    (key' : String) (next? : Option α) :
    (c.commit key' next?).get? key = (c'.commit key' next?).get? key := by
  cases next? with
  | none => exact h
  | some a =>
      change (c.insert key' (Json.encode a)).get? key = (c'.insert key' (Json.encode a)).get? key
      rw [Table.get?_insert, Table.get?_insert, h]

end Contents

theorem Promo.entriesOf_filter (codes : List PromoCode) (key : String) :
    entriesOf (codes.filter (·.key = key)) = (entriesOf codes).filter (·.1 = key) := by
  unfold entriesOf
  rw [List.filter_map]
  rfl

/-! ### One call -/

/-- The states hold the same under this key, and draw the same numbers. -/
def AgreeAt {ρ : Type} (key : String) (s s' : Contents × ρ) : Prop :=
  s.1.get? key = s'.1.get? key ∧ s.2 = s'.2

section
variable {ρ α β γ : Type} [Json.Coded α] {key : String} {s s' : Contents × ρ}

/-- A transaction on the key is answered by what is under the key. -/
theorem AgreeAt.transact (h : AgreeAt key s s') (f : Option α → β × Option α)
    (reply : Except ActionError β → γ) :
    (onStore (KeyValue.transact key f) reply s).1 = (onStore (KeyValue.transact key f) reply s').1 ∧
      AgreeAt key (onStore (KeyValue.transact key f) reply s).2
        (onStore (KeyValue.transact key f) reply s').2 := by
  obtain ⟨c, source⟩ := s
  obtain ⟨c', source'⟩ := s'
  obtain ⟨hget, rfl⟩ : c.get? key = c'.get? key ∧ source = source' := h
  have hstored : (c.stored? key : Except ActionError (Option α)) = c'.stored? key :=
    Contents.stored?_congr hget
  rw [onStore_table, onStore_table, hstored]
  cases (c'.stored? key : Except ActionError (Option α)) with
  | error e => exact ⟨rfl, hget, rfl⟩
  | ok a? => exact ⟨rfl, Contents.get?_commit_congr hget key _, rfl⟩

theorem agreeAt_transact {key' : String} (hne : key' ≠ key) (f : Option α → β × Option α)
    (reply : Except ActionError β → γ) (s : Contents × ρ) :
    AgreeAt key (onStore (KeyValue.transact key' f) reply s).2 s := by
  obtain ⟨c, source⟩ := s
  rw [onStore_table]
  cases (c.stored? key' : Except ActionError (Option α)) with
  | error e => exact ⟨rfl, rfl⟩
  | ok a? => exact ⟨Contents.get?_commit_of_ne hne _, rfl⟩

end

namespace Operation

variable {ρ : Type} [NumberSource ρ] {key : String} {op op' : Operation} {s s' : Contents × ρ}

instance (key : String) (op : Operation) : Decidable (op.Presents key) :=
  inferInstanceAs (Decidable (_ = _))

/-- The key of the one entry that a call reads, if it reads any. -/
def entry? : Operation → Option String
  | todo _ => some listKey
  | promo (.validate _ input) => some (PromoCode.keyOf input)
  | promo (.redeem _ input) => some (PromoCode.keyOf input)
  | _ => none

theorem entry_cases {key' : String} (h : op.entry? = some key') :
    (∃ reply, ∀ s : Contents × ρ, op.perform s = (reply, s)) ∨
      ∃ (α β : Type) (_ : Json.Coded α) (f : Option α → β × Option α)
        (reply : Except ActionError β → Reply), ∀ s : Contents × ρ,
          op.perform s = onStore (KeyValue.transact key' f) reply s := by
  cases op with
  | put key value => cases h
  | todo call =>
      obtain rfl := Option.some.inj h
      cases hcall : call.refusal? with
      | some e =>
          refine .inl ⟨.todo (.error e), fun s => ?_⟩
          change onStore call.action Reply.todo s = _
          rw [TodoCall.action_eq_throw hcall]
          rfl
      | none =>
          refine .inr ⟨List Todo, TodoReply, inferInstance, fun ts? => call.effect (ts?.getD []),
            Reply.todo, fun s => ?_⟩
          change onStore call.action Reply.todo s = _
          rw [TodoCall.action_eq_edit hcall]
          rfl
  | promo call =>
      cases call with
      | seed now ids => cases h
      | storeAll codes => cases h
      | validate now input =>
          obtain rfl := Option.some.inj h
          refine .inr ⟨PromoCode, Validation, inferInstance, Promo.validated now input,
            fun r => .promo (.validated r), fun s => ?_⟩
          change onStore (Promo.validate now input) (fun r => Reply.promo (.validated r)) s = _
          rw [Promo.validate_eq_transact]
      | redeem now input =>
          obtain rfl := Option.some.inj h
          refine .inr ⟨PromoCode, Redemption, inferInstance, Promo.redeemed now input,
            fun r => .promo (.redeemed r), fun s => ?_⟩
          change onStore (Promo.redeem now input) (fun r => Reply.promo (.redeemed r)) s = _
          rw [Promo.redeem_eq_transact]

theorem perform_entry_of_ne {key' : String} (h : op.entry? = some key') (hne : key' ≠ key)
    (s : Contents × ρ) : AgreeAt key (op.perform s).2 s := by
  obtain ⟨reply, hperform⟩ | ⟨α, β, hα, f, reply, hperform⟩ := entry_cases (ρ := ρ) h
  · rw [hperform]
    exact ⟨rfl, rfl⟩
  · rw [hperform]
    exact agreeAt_transact hne f reply s

theorem perform_entry (h : op.entry? = some key) (hs : AgreeAt key s s') :
    (op.perform s).1 = (op.perform s').1 ∧ AgreeAt key (op.perform s).2 (op.perform s').2 := by
  obtain ⟨reply, hperform⟩ | ⟨α, β, hα, f, reply, hperform⟩ := entry_cases (ρ := ρ) h
  · rw [hperform, hperform]
    exact ⟨rfl, hs⟩
  · rw [hperform, hperform]
    exact hs.transact f reply

theorem entry?_of_presents (h : op.Presents key) : op.entry? = some key := by
  cases op with
  | todo call => exact absurd h (not_presents rfl)
  | put key' value => exact absurd h (not_presents rfl)
  | promo call =>
      cases call with
      | validate now input => exact h
      | redeem now input => exact h
      | seed now ids => exact absurd h (not_presents rfl)
      | storeAll codes => exact absurd h (not_presents rfl)

/-- What a call has to do with a key: nothing, or what is left of the call without the codes that
are stored under other keys. To draw sample codes concerns every key, since the numbers that are
drawn decide on the codes to come. -/
def concerning? (key : String) (op : Operation) : Option Operation :=
  match op with
  | promo (.seed _ _) => some op
  | promo (.storeAll codes) => some (promo (.storeAll (codes.filter (·.key = key))))
  | put key' _ => if key' = key then some op else none
  | _ => if op.entry? = some key then some op else none

theorem concerning?_of_entry {key' : String} (h : op.entry? = some key') :
    op.concerning? key = if key' = key then some op else none := by
  have hop : op.concerning? key = if op.entry? = some key then some op else none := by
    unfold concerning?
    split
    · cases h
    · cases h
    · cases h
    · rfl
  rw [hop, h]
  simp only [Option.some.injEq]

/-- A call that does not concern the key leaves it alone, and presents no code of that key. -/
theorem perform_unconcerned (h : op.concerning? key = none) (s : Contents × ρ) :
    AgreeAt key (op.perform s).2 s ∧ ¬ op.Presents key := by
  cases hentry : op.entry? with
  | some key' =>
      have hne : key' ≠ key := by
        rintro rfl
        rw [concerning?_of_entry hentry, if_pos rfl] at h
        cases h
      refine ⟨perform_entry_of_ne hentry hne s, fun hpresents => hne ?_⟩
      exact Option.some.inj (hentry.symm.trans (entry?_of_presents hpresents))
  | none =>
      refine ⟨?_, fun hpresents => ?_⟩
      · cases op with
        | todo call => cases hentry
        | put key' value =>
            have hne : key' ≠ key := by
              rintro rfl
              simp [concerning?] at h
            exact ⟨(Table.get?_insert s.1 key' key value).trans (if_neg hne), rfl⟩
        | promo call =>
            cases call with
            | validate now input => cases hentry
            | redeem now input => cases hentry
            | seed now ids => cases h
            | storeAll codes => cases h
      · rw [entry?_of_presents hpresents] at hentry
        cases hentry

/-- What is stored directly is stored alike in both stores, as far as it concerns the key. -/
theorem perform_stores_concerning (hentry : op.entry? = none) (h : op.concerning? key = some op')
    (hs : AgreeAt key s s') : AgreeAt key (op.perform s).2 (op'.perform s').2 := by
  obtain ⟨c, source⟩ := s
  obtain ⟨c', source'⟩ := s'
  obtain ⟨hget, rfl⟩ : c.get? key = c'.get? key ∧ source = source' := hs
  cases op with
  | todo call => cases hentry
  | put key' value =>
      obtain ⟨hkey, rfl⟩ : key' = key ∧ put key' value = op' := by simpa [concerning?] using h
      exact ⟨Contents.get?_storing_congr hget [(key', value)], rfl⟩
  | promo call =>
      cases call with
      | validate now input => cases hentry
      | redeem now input => cases hentry
      | seed now ids =>
          obtain rfl := Option.some.inj h
          have hstores : (promo (.seed now ids)).stores = true := rfl
          obtain ⟨reply, entries, source', -, hperform⟩ := perform_stores hstores source
          rw [hperform, hperform]
          exact ⟨Contents.get?_storing_congr hget entries, rfl⟩
      | storeAll codes =>
          obtain rfl := Option.some.inj h
          have hperform : ∀ (codes : List PromoCode) (c : Contents),
              ((promo (.storeAll codes)).perform (c, source)).2 =
                (c.storing (Promo.entriesOf codes), source) := by
            intro codes c
            change (onStore (Promo.writeAll codes) PromoReply.stored (c, source)).2 = _
            unfold onStore
            rw [Promo.writeAll_table]
          rw [hperform, hperform, Promo.entriesOf_filter]
          exact ⟨Contents.get?_storing_filter hget (Promo.entriesOf codes), rfl⟩

theorem presents_concerning (h : op.concerning? key = some op') :
    op'.Presents key ↔ op.Presents key := by
  have hkept : ∀ {p : Prop} [Decidable p], (if p then some op else none) = some op' → op' = op := by
    intro p _ hp
    split at hp
    · exact (Option.some.inj hp).symm
    · cases hp
  cases hentry : op.entry? with
  | some key' =>
      rw [concerning?_of_entry hentry] at h
      rw [hkept h]
  | none =>
      cases op with
      | todo call => cases hentry
      | put key' value => rw [hkept h]
      | promo call =>
          cases call with
          | validate now input => cases hentry
          | redeem now input => cases hentry
          | seed now ids => rw [Option.some.inj h]
          | storeAll codes =>
              rw [← Option.some.inj h]
              exact iff_of_false (not_presents rfl) (not_presents rfl)

/-- What a call has to do with the key takes stores that agree at the key to stores that do, and is
answered alike if it presents a code. -/
theorem perform_concerning (h : op.concerning? key = some op') (hs : AgreeAt key s s') :
    AgreeAt key (op.perform s).2 (op'.perform s').2 ∧
      (op.Presents key → (op.perform s).1 = (op'.perform s').1) := by
  cases hentry : op.entry? with
  | some key' =>
      rw [concerning?_of_entry hentry] at h
      by_cases hkey : key' = key
      · obtain rfl := Option.some.inj ((if_pos hkey).symm.trans h)
        rw [hkey] at hentry
        obtain ⟨hreply, hnext⟩ := perform_entry hentry hs
        exact ⟨hnext, fun _ => hreply⟩
      · cases (if_neg hkey).symm.trans h
  | none =>
      refine ⟨perform_stores_concerning hentry h hs, fun hpresents => ?_⟩
      rw [entry?_of_presents hpresents] at hentry
      cases hentry

end Operation

/-! ### Sequences of calls -/

section
variable {ρ : Type} [NumberSource ρ] {key : String}

/-- The replies, in order, to the calls that present a code of this key. -/
def answersTo (key : String) (ops : List Operation) (s : Contents × ρ) : List Reply :=
  ((ops.zip (run ops s).1).filter (·.1.Presents key)).map Prod.snd

theorem answersTo_cons (op : Operation) (ops : List Operation) (s : Contents × ρ) :
    answersTo key (op :: ops) s =
      if op.Presents key then (op.perform s).1 :: answersTo key ops (op.perform s).2
      else answersTo key ops (op.perform s).2 := by
  unfold answersTo
  rw [run, List.zip_cons_cons]
  by_cases hpresents : op.Presents key
  · rw [if_pos hpresents, List.filter_cons_of_pos (by simpa using hpresents), List.map_cons]
  · rw [if_neg hpresents, List.filter_cons_of_neg (by simpa using hpresents)]

theorem run_concerning (ops : List Operation) {s s' : Contents × ρ} (h : AgreeAt key s s') :
    answersTo key ops s = answersTo key (ops.filterMap (·.concerning? key)) s' ∧
      AgreeAt key (run ops s).2 (run (ops.filterMap (·.concerning? key)) s').2 := by
  induction ops generalizing s s' with
  | nil => exact ⟨rfl, h⟩
  | cons op ops ih =>
      cases hop : op.concerning? key with
      | none =>
          obtain ⟨hs, hpresents⟩ := op.perform_unconcerned hop s
          have hnext : AgreeAt key (op.perform s).2 s' := ⟨hs.1.trans h.1, hs.2.trans h.2⟩
          rw [List.filterMap_cons_none hop, answersTo_cons, if_neg hpresents]
          exact ih hnext
      | some op' =>
          obtain ⟨hnext, hreply⟩ := Operation.perform_concerning hop h
          have hpresents := Operation.presents_concerning hop
          obtain ⟨hanswers, hend⟩ := ih hnext
          rw [List.filterMap_cons_some hop, answersTo_cons, answersTo_cons, hanswers]
          refine ⟨?_, hend⟩
          by_cases hp : op.Presents key
          · rw [if_pos hp, if_pos (hpresents.mpr hp), hreply hp]
          · rw [if_neg hp, if_neg fun hp' => hp (hpresents.mp hp')]

/-- Codes do not influence each other. Whatever the store held at first, the presented codes of one
key are answered as they are when every call that concerns other keys only is left out, and every
code with another key is left out of the lists that are stored; and in the end the key holds the
same bytes. -/
theorem answered_apart (key : String) (ops : List Operation) (c : Contents) (source : ρ) :
    answersTo key ops (c, source) =
        answersTo key (ops.filterMap (·.concerning? key)) (c, source) ∧
      (run ops (c, source)).2.1.get? key =
        (run (ops.filterMap (·.concerning? key)) (c, source)).2.1.get? key := by
  have hs : AgreeAt key (c, source) (c, source) := ⟨rfl, rfl⟩
  obtain ⟨hanswers, hget, -⟩ := run_concerning ops hs
  exact ⟨hanswers, hget⟩

end
end TodoPromo
