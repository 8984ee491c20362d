import TodoPromo.Json.Typed

/-! # Written values and their readers

A written value is read back out of the middle of a text, so what a reader makes of it must not
hang on what follows. `Gives x rest o` says what a reading comes to: the value in `o` with `rest`
left over, or a failure when `o` is empty. `Spells r w o` says that the reader `r` comes to `o` on
the written value `w` whatever delimiter follows. The main statements are the rule for sequencing
(`Gives.bind`) and one lemma per separator. -/

namespace TodoPromo.Json

variable {α β ε : Type}

/-- What can stand behind a value: nothing, or what separates or closes values. -/
def Delimited : Bytes → Prop
  | [] => True
  | b :: _ => b = 0x2C ∨ b = 0x5D ∨ b = 0x7D

/-- The first byte of a value: no blank, and not the end of a list. -/
def StartsValue : Bytes → Prop
  | [] => False
  | b :: _ => isSpace b = false ∧ b ≠ 0x5D

/-- A reading that comes to `o` and leaves `rest`. -/
def Gives (x : Except ε (α × Bytes)) (rest : Bytes) : Option α → Prop
  | some a => x = .ok (a, rest)
  | none => ∃ e, x = .error e

/-- The reader takes exactly `w` off the front, or fails there, whatever delimiter follows. -/
structure Spells (r : Reader α) (w : Bytes) (o : Option α) : Prop where
  starts : StartsValue w
  gives : ∀ rest, Delimited rest → Gives (r (w ++ rest)) rest o

@[simp] theorem delimited_nil : Delimited [] := trivial

@[simp] theorem delimited_comma (bs : Bytes) : Delimited (0x2C :: bs) := .inl rfl

@[simp] theorem delimited_listEnd (bs : Bytes) : Delimited (0x5D :: bs) := .inr (.inl rfl)

@[simp] theorem delimited_objectEnd (bs : Bytes) : Delimited (0x7D :: bs) := .inr (.inr rfl)

theorem StartsValue.exists_cons {w : Bytes} (h : StartsValue w) :
    ∃ b bs, w = b :: bs ∧ isSpace b = false ∧ b ≠ 0x5D := by
  cases w with
  | nil => exact h.elim
  | cons b bs => exact ⟨b, bs, rfl, h.1, h.2⟩

/-! ### Readings in sequence -/

theorem Reader.bind_ok {r : Reader α} {f : α → Reader β} {bs rest : Bytes} {a : α}
    (h : r bs = .ok (a, rest)) : (r >>= f) bs = f a rest := by
  change (r bs >>= fun p => f p.1 p.2) = _
  rw [h]
  rfl

theorem Reader.bind_error {r : Reader α} {f : α → Reader β} {bs : Bytes} {e : Failure}
    (h : r bs = .error e) : (r >>= f) bs = .error e := by
  change (r bs >>= fun p => f p.1 p.2) = _
  rw [h]
  rfl

theorem Reader.get_eq (bs : Bytes) : (get : Reader Bytes) bs = .ok (bs, bs) := rfl

theorem Gives.bind {r : Reader α} {f : α → Reader β} {bs mid rest : Bytes} {o : Option α}
    {o' : α → Option β} (h : Gives (r bs) mid o)
    (hf : ∀ a, o = some a → Gives (f a mid) rest (o' a)) :
    Gives ((r >>= f) bs) rest (o.bind o') := by
  cases o with
  | none =>
      obtain ⟨e, he⟩ := h
      exact ⟨e, Reader.bind_error he⟩
  | some a =>
      rw [Reader.bind_ok h]
      exact hf a rfl

theorem Gives.map {r : Reader α} {f : α → β} {bs rest : Bytes} {o : Option α}
    (h : Gives (r bs) rest o) : Gives ((f <$> r) bs) rest (o.map f) := by
  have he : (f <$> r) = (r >>= fun a => pure (f a)) := (bind_pure_comp f r).symm
  rw [he, Option.map_eq_bind]
  exact h.bind fun a _ => rfl

theorem Gives.step {f : Bytes → Except Cause (α × Bytes)} {bs rest : Bytes} {o : Option α}
    (h : Gives (f bs) rest o) : Gives (Reader.step f bs) rest o := by
  unfold Reader.step
  cases o with
  | none =>
      obtain ⟨c, hc⟩ := h
      exact ⟨⟨none, c⟩, by rw [hc]⟩
  | some a =>
      change f bs = .ok (a, rest) at h
      rw [h]
      rfl

theorem Gives.within {r : Reader α} {p : Place} {bs rest : Bytes} {o : Option α}
    (h : Gives (r bs) rest o) : Gives (Reader.within p r bs) rest o := by
  unfold Reader.within
  cases o with
  | none =>
      obtain ⟨e, he⟩ := h
      exact ⟨{ e with place := some p }, by rw [he]⟩
  | some a =>
      change r bs = .ok (a, rest) at h
      rw [h]
      rfl

theorem Spells.map {r : Reader α} {w : Bytes} {o : Option α} (h : Spells r w o) (f : α → β) :
    Spells (f <$> r) w (o.map f) :=
  ⟨h.starts, fun rest hr => (h.gives rest hr).map⟩

theorem Spells.bind {r : Reader α} {w : Bytes} {o : Option α} {f : α → Reader β}
    {g : α → Option β} (h : Spells r w o)
    (hf : ∀ a, o = some a → ∀ rest, Gives (f a rest) rest (g a)) : Spells (r >>= f) w (o.bind g) :=
  ⟨h.starts, fun rest hr => (h.gives rest hr).bind fun a ha => hf a ha rest⟩

/-- A whole text that spells a value decodes to it. -/
theorem decode_of_spells [Coded α] {w : Bytes} {a : α}
    (h : Spells (Coded.read : Reader α) w (some a)) : decode w = .ok a := by
  have hr : Coded.read w = .ok (a, []) := by
    have hg := h.gives [] delimited_nil
    rwa [List.append_nil] at hg
  unfold decode
  rw [Reader.bind_ok hr]
  rfl

/-- A text whose reading fails does not decode. -/
theorem decode_of_error [Coded α] {w : Bytes} {e : Failure}
    (h : (Coded.read : Reader α) w = .error e) : (decode w : Except Failure α) = .error e := by
  unfold decode
  rw [Reader.bind_error h]
  rfl

theorem decode_of_spells_none [Coded α] {w : Bytes}
    (h : Spells (Coded.read : Reader α) w none) : ∃ e, (decode w : Except Failure α) = .error e := by
  obtain ⟨e, he⟩ : ∃ e, Coded.read w = .error e := by
    have hg := h.gives [] delimited_nil
    rwa [List.append_nil] at hg
  exact ⟨e, decode_of_error he⟩

/-! ### Single bytes -/

theorem skipSpace_cons {b : UInt8} (h : isSpace b = false) (bs : Bytes) :
    skipSpace (b :: bs) = b :: bs := by
  simp [skipSpace, h]

namespace Reader

theorem value_cons {expected : String} {starts : UInt8 → Bool}
    {f : Bytes → Except Cause (α × Bytes)} {b : UInt8} {bs : Bytes} (hb : isSpace b = false)
    (hs : starts b = true) : value expected starts f (b :: bs) = step f (b :: bs) := by
  simp [value, step, skipSpace_cons hb, hs]

theorem openList_cons (expected : String) (bs : Bytes) :
    openList expected (0x5B :: bs) = .ok ((), bs) := rfl

theorem openObject_cons (expected : String) (bs : Bytes) :
    openObject expected (0x7B :: bs) = .ok ((), bs) := rfl

theorem closeList_cons (bs : Bytes) : closeList (0x5D :: bs) = .ok ((), bs) := rfl

theorem colon_cons (bs : Bytes) : colon (0x3A :: bs) = .ok ((), bs) := rfl

theorem moreItems_end (first : Bool) (bs : Bytes) :
    moreItems first (0x5D :: bs) = .ok (false, 0x5D :: bs) := rfl

theorem moreMembers_end (first : Bool) (bs : Bytes) :
    moreMembers first (0x7D :: bs) = .ok (false, bs) := rfl

/-- The comma in front of an item or a member, unless it is the first one. -/
def comma (first : Bool) : Bytes := if first then [] else [0x2C]

theorem moreItems_comma (first : Bool) {w : Bytes} (hw : StartsValue w) (rest : Bytes) :
    moreItems first (comma first ++ (w ++ rest)) = .ok (true, w ++ rest) := by
  obtain ⟨b, bs, rfl, hb, hne⟩ := hw.exists_cons
  cases first with
  | true => simp [moreItems, step, comma, skipSpace_cons hb, hne]
  | false =>
      have hc : isSpace 0x2C = false := rfl
      simp [moreItems, step, comma, skipSpace_cons hc, skipSpace_cons hb, hne]

theorem moreMembers_comma (first : Bool) (bs : Bytes) :
    moreMembers first (comma first ++ 0x22 :: bs) = .ok (true, 0x22 :: bs) := by
  cases first <;> rfl

end Reader

/-! ### Items and members in a row -/

/-- Written items with a comma in front of each, except in front of the first of all. -/
def inRow (first : Bool) : List Bytes → Bytes
  | [] => []
  | w :: ws => Reader.comma first ++ (w ++ inRow false ws)

theorem commaSeparated_eq_inRow (ws : List Bytes) : commaSeparated ws = inRow true ws := by
  have h : ∀ w ws, commaSeparated (w :: ws) = w ++ inRow false ws := by
    intro w ws
    induction ws generalizing w with
    | nil => simp [commaSeparated, inRow]
    | cons w' ws ih => simp [commaSeparated, inRow, Reader.comma, ih w']
  cases ws with
  | nil => rfl
  | cons w ws => simpa [inRow, Reader.comma] using h w ws

end TodoPromo.Json
