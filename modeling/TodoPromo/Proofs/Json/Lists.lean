import TodoPromo.Proofs.Json.Strings

/-! # Lists and tables read back

A written list spells the list of its items if every item is spelled (`spells_writeList`), and a
written table spells the table (`spells_table`). Both are one induction over the items that are
still to come, with the comma in front of all but the first. -/

namespace TodoPromo.Json

variable {α κ : Type}

/-- A reader of keys takes a written key off the front of any text. -/
structure SpellsKey (r : Reader κ) (w : Bytes) (k : κ) : Prop where
  starts : ∃ bs, w = 0x22 :: bs
  gives : ∀ rest, r (w ++ rest) = .ok (k, rest)

theorem spellsKey_writeString (s : String) : SpellsKey Reader.key (writeString s) s :=
  ⟨⟨_, rfl⟩, key_writeString s⟩

/-! ### Lists -/

theorem length_le_inRow {ws : List Bytes} (h : ∀ w ∈ ws, w ≠ []) (first : Bool) :
    ws.length ≤ (inRow first ws).length := by
  induction ws generalizing first with
  | nil => simp
  | cons w ws ih =>
      have hw : 0 < w.length := List.length_pos_iff.mpr (h w (by simp))
      have hws := ih (fun w' hw' => h w' (by simp [hw'])) false
      simp only [inRow, List.length_cons, List.length_append]
      omega

theorem StartsValue.ne_nil {w : Bytes} (h : StartsValue w) : w ≠ [] := by
  rintro rfl
  exact h

theorem delimited_inRow_listEnd (ws : List Bytes) (rest : Bytes) :
    Delimited (inRow false ws ++ 0x5D :: rest) := by
  cases ws with
  | nil => exact delimited_listEnd rest
  | cons w ws => exact delimited_comma _

theorem items_inRow {element : Reader α} {write : α → Bytes} {as : List α}
    (h : ∀ a ∈ as, Spells element (write a) (some a)) (first : Bool) {fuel : Nat}
    (hfuel : as.length < fuel) (rest : Bytes) :
    Reader.items element fuel first (inRow first (as.map write) ++ 0x5D :: rest) =
      .ok (as, 0x5D :: rest) := by
  induction as generalizing first fuel with
  | nil =>
      obtain ⟨fuel, rfl⟩ : ∃ n, fuel = n + 1 := ⟨fuel - 1, by simp at hfuel; omega⟩
      rw [Reader.items]
      exact Reader.bind_ok (Reader.moreItems_end first rest)
  | cons a as ih =>
      obtain ⟨fuel, rfl⟩ : ∃ n, fuel = n + 1 := ⟨fuel - 1, by simp at hfuel; omega⟩
      have ha := h a (by simp)
      have has := ih (fun a' ha' => h a' (by simp [ha'])) false
        (by simpa using hfuel : as.length < fuel)
      have hitem := ha.gives _ (delimited_inRow_listEnd (as.map write) rest)
      rw [List.map_cons, inRow, List.append_assoc, List.append_assoc, Reader.items,
        Reader.bind_ok (Reader.moreItems_comma first ha.starts _), if_pos rfl,
        Reader.bind_ok hitem, Reader.bind_ok has]
      rfl

theorem spells_writeList {element : Reader α} {write : α → Bytes} {as : List α}
    (h : ∀ a ∈ as, Spells element (write a) (some a)) :
    Spells (Reader.list element) (writeList (as.map write)) (some as) := by
  refine ⟨⟨rfl, by decide⟩, fun rest _ => ?_⟩
  have hw : ∀ w ∈ as.map write, w ≠ [] := by
    intro w hw
    obtain ⟨a, ha, rfl⟩ := List.mem_map.mp hw
    exact (h a ha).starts.ne_nil
  have hlen := length_le_inRow hw true
  have hfuel : as.length < (inRow true (as.map write) ++ 0x5D :: rest).length + 1 := by
    simp only [List.length_map, List.length_append] at hlen ⊢
    omega
  have hitems := items_inRow h true hfuel rest
  have htext : writeList (as.map write) ++ rest =
      0x5B :: (inRow true (as.map write) ++ 0x5D :: rest) := by
    simp [writeList, commaSeparated_eq_inRow]
  change Reader.list element _ = _
  rw [htext, Reader.list, Reader.bind_ok (Reader.openList_cons _ _),
    Reader.bind_ok (Reader.get_eq _), Reader.bind_ok hitems,
    Reader.bind_ok (Reader.closeList_cons rest)]
  rfl

/-- The list instance reads its own writing if the instance of the items does. -/
theorem decode_encode_list [Coded α] {as : List α}
    (h : ∀ a ∈ as, Spells Coded.read (Coded.write a) (some a)) :
    decode (encode as) = .ok as :=
  decode_of_spells (spells_writeList h)

/-! ### Tables -/

/-- The written member of a table's entry. -/
def memberOf (writeKey : κ → Bytes) (write : α → Bytes) (e : κ × α) : Bytes :=
  writeMember (writeKey e.1) (write e.2)

theorem delimited_inRow_objectEnd (ws : List Bytes) (rest : Bytes) :
    Delimited (inRow false ws ++ 0x7D :: rest) := by
  cases ws with
  | nil => exact delimited_objectEnd rest
  | cons w ws => exact delimited_comma _

theorem members_inRow {readKey : Reader κ} {read : Reader α} {writeKey : κ → Bytes}
    {write : α → Bytes} {es : List (κ × α)}
    (hk : ∀ e ∈ es, SpellsKey readKey (writeKey e.1) e.1)
    (hv : ∀ e ∈ es, Spells read (write e.2) (some e.2)) (first : Bool) {fuel : Nat}
    (hfuel : es.length < fuel) (rest : Bytes) :
    Reader.members readKey read fuel first
        (inRow first (es.map (memberOf writeKey write)) ++ 0x7D :: rest) = .ok (es, rest) := by
  induction es generalizing first fuel with
  | nil =>
      obtain ⟨fuel, rfl⟩ : ∃ n, fuel = n + 1 := ⟨fuel - 1, by simp at hfuel; omega⟩
      rw [Reader.members]
      exact Reader.bind_ok (Reader.moreMembers_end first rest)
  | cons e es ih =>
      obtain ⟨fuel, rfl⟩ : ∃ n, fuel = n + 1 := ⟨fuel - 1, by simp at hfuel; omega⟩
      have hes := ih (fun e' he' => hk e' (by simp [he'])) (fun e' he' => hv e' (by simp [he']))
        false (by simpa using hfuel : es.length < fuel)
      have hvalue := (hv e (by simp)).gives _
        (delimited_inRow_objectEnd (es.map (memberOf writeKey write)) rest)
      obtain ⟨⟨bs, hbs⟩, hkey⟩ := hk e (by simp)
      have hmore := Reader.moreMembers_comma first (bs ++ 0x3A :: (write e.2 ++
        (inRow false (es.map (memberOf writeKey write)) ++ 0x7D :: rest)))
      rw [← List.cons_append, ← hbs] at hmore
      rw [List.map_cons, inRow, memberOf, writeMember, List.append_assoc, List.append_assoc,
        List.append_assoc, List.cons_append, Reader.members, Reader.bind_ok hmore, if_pos rfl,
        Reader.bind_ok (hkey _), Reader.bind_ok (Reader.colon_cons _), Reader.bind_ok hvalue,
        Reader.bind_ok hes]
      rfl

theorem spells_table [DecidableEq κ] [CodedKey κ] [Coded α] {t : Table κ α}
    (hk : ∀ e ∈ t.entries, SpellsKey CodedKey.readKey (CodedKey.writeKey e.1) e.1)
    (hv : ∀ e ∈ t.entries, Spells Coded.read (Coded.write e.2) (some e.2)) :
    Spells (Coded.read : Reader (Table κ α)) (encode t) (some t) := by
  have hobject : Spells (Reader.object (CodedKey.readKey : Reader κ) (Coded.read : Reader α))
      (encode t) (some t.entries) := by
    refine ⟨⟨rfl, by decide⟩, fun rest _ => ?_⟩
    have hw : ∀ w ∈ t.entries.map (memberOf CodedKey.writeKey Coded.write), w ≠ [] := by
      intro w hw
      obtain ⟨e, he, rfl⟩ := List.mem_map.mp hw
      simp [memberOf, writeMember]
    have hlen := length_le_inRow hw true
    have hfuel : t.entries.length <
        (inRow true (t.entries.map (memberOf CodedKey.writeKey Coded.write)) ++
          0x7D :: rest).length + 1 := by
      simp only [List.length_map, List.length_append] at hlen ⊢
      omega
    have hmembers := members_inRow hk hv true hfuel rest
    have htext : encode t ++ rest =
        0x7B :: (inRow true (t.entries.map (memberOf CodedKey.writeKey Coded.write)) ++
          0x7D :: rest) := by
      change writeObject _ ++ rest = _
      simp only [writeObject, commaSeparated_eq_inRow, List.cons_append, List.append_assoc,
        List.nil_append]
      rfl
    change Reader.object _ _ _ = _
    rw [htext, Reader.object, Reader.bind_ok (Reader.openObject_cons _ _),
      Reader.bind_ok (Reader.get_eq _)]
    exact hmembers
  have hmap := hobject.map (Table.ofList (κ := κ) (α := α))
  rw [Option.map_some, Table.ofList_entries] at hmap
  exact hmap

end TodoPromo.Json
