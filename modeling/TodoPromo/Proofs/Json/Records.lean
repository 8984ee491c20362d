import TodoPromo.Proofs.Json.Kinds
import TodoPromo.Proofs.Json.Lists

/-! # Records read back

An object with some of the fields of a record is read to its end, and comes to what these fields come
to, and the defaults of the others (`spells_members`). The fields that are there make up a draft. The
reader fills a draft of all fields while the members that are still to come belong to the fields of a
suffix, so the induction is on that suffix, with the way its draft sits in the whole one
(`gives_readMembers`). A record that was written is the object of the fields that are not left out, so
it comes to what its fields come to (`spells_record`). -/

namespace TodoPromo.Json

/-- A field is left out only with the value that it has when it is missing. -/
def Field.Regular (f : Field) : Prop := ∀ v, f.omits v = true → f.default? = some v

theorem Field.regular_required (name : String) (kind : Kind) : (Field.required name kind).Regular :=
  fun _ h => Bool.noConfusion h

/-- No name twice, and nothing left out that could not be restored. -/
structure RegularFields (fs : List Field) : Prop where
  nodup : (fs.map Field.name).Nodup
  regular : ∀ f ∈ fs, f.Regular

theorem regularFields_required {l : List (String × Kind)} (h : (l.map Prod.fst).Nodup) :
    RegularFields (l.map fun p => Field.required p.1 p.2) := by
  refine ⟨?_, ?_⟩
  · rw [List.map_map]
    exact h
  · intro f hf
    obtain ⟨p, -, rfl⟩ := List.mem_map.mp hf
    exact Field.regular_required p.1 p.2

/-! ### Rows and drafts, field by field -/

/-- The draft of a first field and of the others. -/
def Draft.cons {f : Field} {rest : List Field} (v? : Option f.kind.Value) (d : Draft rest) :
    Draft (f :: rest) := (v?, d)

/-- The row of a first field and of the others. -/
def Row.cons {f : Field} {rest : List Field} (v : f.kind.Value) (row : Row rest) :
    Row (f :: rest) := (v, row)

theorem Row.exists_cons {f : Field} {rest : List Field} (row : Row (f :: rest)) :
    ∃ v r, row = Row.cons v r := ⟨row.1, row.2, rfl⟩

theorem Draft.exists_cons {f : Field} {rest : List Field} (d : Draft (f :: rest)) :
    ∃ v? d', d = Draft.cons v? d' := ⟨d.1, d.2, rfl⟩

namespace Draft

/-- The members of the fields that are there. -/
def members : (fs : List Field) → Draft fs → List Bytes
  | [], _ => []
  | _ :: rest, (none, d) => members rest d
  | f :: rest, (some v, d) => writeMember (writeString f.name) (f.kind.write v) :: members rest d

/-- The draft that reading these members gives. -/
def reread : (fs : List Field) → Draft fs → Option (Draft fs)
  | [], _ => some ()
  | _ :: rest, (none, d) => (reread rest d).map (cons none)
  | f :: rest, (some v, d) =>
    (f.kind.reread v).bind fun v' => (reread rest d).map (cons (some v'))

end Draft

namespace Row

/-- The fields of a row that are not left out. -/
def draft : (fs : List Field) → Row fs → Draft fs
  | [], _ => ()
  | f :: rest, (v, row) => Draft.cons (if f.omits v then none else some v) (draft rest row)

/-- What reading a written row gives. -/
def reread : (fs : List Field) → Row fs → Option (Row fs)
  | [], _ => some ()
  | f :: rest, (v, row) =>
    if f.omits v then (reread rest row).map (Row.cons v)
    else (f.kind.reread v).bind fun v' => (reread rest row).map (Row.cons v')

section
variable {f : Field} {rest : List Field} {v : f.kind.Value}

theorem draft_omitted (h : f.omits v = true) (row : Row rest) :
    draft (f :: rest) (cons v row) = Draft.cons none (draft rest row) :=
  congrArg (Draft.cons · (draft rest row)) (if_pos h)

theorem draft_written (h : ¬ f.omits v = true) (row : Row rest) :
    draft (f :: rest) (cons v row) = Draft.cons (some v) (draft rest row) :=
  congrArg (Draft.cons · (draft rest row)) (if_neg h)

theorem reread_omitted (h : f.omits v = true) (row : Row rest) :
    reread (f :: rest) (cons v row) = (reread rest row).map (Row.cons v) :=
  if_pos h

theorem reread_written (h : ¬ f.omits v = true) (row : Row rest) :
    reread (f :: rest) (cons v row) =
      (f.kind.reread v).bind fun v' => (reread rest row).map (Row.cons v') :=
  if_neg h

theorem toOption_complete_cons {v? : Option f.kind.Value} (hv : v?.or f.default? = some v)
    (d : Draft rest) :
    ((Draft.cons v? d).complete (f :: rest)).toOption = (d.complete rest).toOption.map (cons v) := by
  rw [Draft.cons, Draft.complete, hv]
  dsimp only
  cases d.complete rest with
  | error c => rfl
  | ok row => rfl

end

theorem members_draft (fs : List Field) (row : Row fs) :
    (draft fs row).members fs = members fs row := by
  induction fs with
  | nil => rfl
  | cons f rest ih =>
      obtain ⟨v, row, rfl⟩ := row.exists_cons
      by_cases homit : f.omits v = true
      · rw [draft_omitted homit]
        exact (ih row).trans (if_pos homit).symm
      · rw [draft_written homit]
        exact (congrArg _ (ih row)).trans (if_neg homit).symm

/-- What the members do not give is completed by the defaults of the fields that were left out. -/
theorem reread_draft {fs : List Field} (h : ∀ f ∈ fs, f.Regular) (row : Row fs) :
    ((draft fs row).reread fs).bind (fun d => (d.complete fs).toOption) = reread fs row := by
  induction fs with
  | nil => rfl
  | cons f rest ih =>
      obtain ⟨v, row, rfl⟩ := row.exists_cons
      have hrest := ih (fun g hg => h g (by simp [hg])) row
      by_cases homit : f.omits v = true
      · have hdefault (d : Draft rest) :=
          toOption_complete_cons (Option.none_or.trans (h f (by simp) v homit)) d
        rw [draft_omitted homit, reread_omitted homit, ← hrest, Option.map_bind]
        change (((draft rest row).reread rest).map (Draft.cons none)).bind _ = _
        rw [Option.bind_map]
        exact congrArg _ (funext hdefault)
      · rw [draft_written homit, reread_written homit, ← hrest]
        change ((f.kind.reread v).bind fun v' =>
          ((draft rest row).reread rest).map (Draft.cons (some v'))).bind _ = _
        rw [Option.bind_assoc]
        refine congrArg _ (funext fun v' => ?_)
        rw [Option.bind_map, Option.map_bind]
        exact congrArg _ (funext (toOption_complete_cons Option.some_or))

end Row

/-! ### Members -/

namespace Draft

theorem fill_of_ne {k : String} {f : Field} (h : f.name ≠ k) (rest : List Field)
    (v? : Option f.kind.Value) (d : Draft rest) :
    Draft.fill k (f :: rest) (Draft.cons v? d) = Draft.cons v? <$> Draft.fill k rest d := by
  have hfill : Draft.fill k (f :: rest) (Draft.cons v? d) =
      (Draft.fill k rest d >>= fun d => pure (Draft.cons v? d)) := if_neg h
  rw [hfill, bind_pure_comp]

theorem gives_fill {f : Field} {rest : List Field} {d : Draft rest} {v : f.kind.Value}
    {bs : Bytes} (h : Delimited bs) :
    Gives (Draft.fill f.name (f :: rest) (Draft.cons none d) (0x3A :: (f.kind.write v ++ bs))) bs
      ((f.kind.reread v).map fun v' => Draft.cons (some v') d) := by
  have hvalue := ((f.kind.spells v).gives bs h).within (p := .key f.name)
  have hfill : Draft.fill f.name (f :: rest) (Draft.cons none d) =
      (Reader.colon >>= fun _ => Reader.within (.key f.name) f.kind.read >>= fun v =>
        pure (Draft.cons (some v) d)) := if_pos rfl
  rw [hfill, Reader.bind_ok (Reader.colon_cons _), Option.map_eq_bind]
  exact hvalue.bind fun v' _ => rfl

/-- A draft of fewer fields sits in a whole one: its fields are filled there as in itself. So do the fields
behind the first of them, since that has another name. -/
theorem fill_embed_cons {fs gs : List Field} {g : Field} {embed : Draft (g :: gs) → Draft fs}
    (hfill : ∀ k ∈ (g :: gs).map Field.name, ∀ d,
      Draft.fill k fs (embed d) = embed <$> Draft.fill k (g :: gs) d)
    (hfirst : g.name ∉ gs.map Field.name) (v? : Option g.kind.Value) :
    ∀ k ∈ gs.map Field.name, ∀ d, Draft.fill k fs (embed (Draft.cons v? d)) =
      (fun d => embed (Draft.cons v? d)) <$> Draft.fill k gs d := by
  intro k hk d
  have hne : g.name ≠ k := by
    rintro rfl
    exact hfirst hk
  rw [hfill k (List.mem_cons_of_mem _ hk), fill_of_ne hne, Functor.map_map]

/-- A member in front is read, and then the others with its value in the draft. -/
theorem gives_readMembers_cons {fs gs : List Field} {g : Field} {embed : Draft (g :: gs) → Draft fs}
    {d : Draft gs} (hfill : Draft.fill g.name fs (embed (Draft.cons none d)) =
      embed <$> Draft.fill g.name (g :: gs) (Draft.cons none d))
    (v : g.kind.Value) (first : Bool) {fuel : Nat} {tail rest : Bytes} (htail : Delimited tail)
    {read? : g.kind.Value → Option (Draft fs)}
    (hread : ∀ v', Gives (Row.readMembers fs fuel false (embed (Draft.cons (some v') d)) tail) rest
      (read? v')) :
    Gives (Row.readMembers fs (fuel + 1) first (embed (Draft.cons none d))
      (Reader.comma first ++ (writeString g.name ++ 0x3A :: (g.kind.write v ++ tail)))) rest
      ((g.kind.reread v).bind read?) := by
  have hmore : Reader.moreMembers first
        (Reader.comma first ++ (writeString g.name ++ 0x3A :: (g.kind.write v ++ tail))) =
      .ok (true, writeString g.name ++ 0x3A :: (g.kind.write v ++ tail)) :=
    Reader.moreMembers_comma first _
  have hfilled := (gives_fill (d := d) (v := v) htail).map (f := embed)
  rw [← hfill, Option.map_map] at hfilled
  rw [Row.readMembers, Reader.bind_ok hmore, if_pos rfl, Reader.bind_ok (key_writeString _ _)]
  cases hv : g.kind.reread v with
  | none =>
      rw [hv] at hfilled
      obtain ⟨e, he⟩ := hfilled
      exact ⟨e, Reader.bind_error he⟩
  | some v' =>
      rw [hv] at hfilled
      rw [Reader.bind_ok hfilled, Option.bind_some]
      exact hread v'

theorem gives_readMembers {fs : List Field} (gs : List Field) (d : Draft gs)
    (embed : Draft gs → Draft fs)
    (hfill : ∀ k ∈ gs.map Field.name, ∀ d, Draft.fill k fs (embed d) = embed <$> Draft.fill k gs d)
    (hnodup : (gs.map Field.name).Nodup) (first : Bool) {fuel : Nat}
    (hfuel : (d.members gs).length < fuel) (rest : Bytes) :
    Gives (Row.readMembers fs fuel first (embed (Draft.empty gs))
      (inRow first (d.members gs) ++ 0x7D :: rest)) rest ((d.reread gs).map embed) := by
  induction gs generalizing first fuel with
  | nil =>
      obtain ⟨fuel, rfl⟩ : ∃ n, fuel = n + 1 := ⟨fuel - 1, by simp [members] at hfuel; omega⟩
      rw [Row.readMembers]
      exact Reader.bind_ok (Reader.moreMembers_end first rest)
  | cons g gs ih =>
      obtain ⟨v?, d, rfl⟩ := d.exists_cons
      rw [List.map_cons, List.nodup_cons] at hnodup
      have hempty : Draft.empty (g :: gs) = Draft.cons none (Draft.empty gs) := rfl
      have hembed := fill_embed_cons hfill hnodup.1
      rw [hempty]
      cases v? with
      | none =>
          have hreread : reread (g :: gs) (Draft.cons none d) = (reread gs d).map (Draft.cons none) := rfl
          rw [hreread, Option.map_map]
          exact ih d (fun d => embed (Draft.cons none d)) (hembed none) hnodup.2 first hfuel
      | some v =>
          have hmembers : members (g :: gs) (Draft.cons (some v) d) =
            writeMember (writeString g.name) (g.kind.write v) :: members gs d := rfl
          have hreread : (reread (g :: gs) (Draft.cons (some v) d)).map embed =
              (g.kind.reread v).bind fun v' =>
                (reread gs d).map fun d => embed (Draft.cons (some v') d) := by
            change ((g.kind.reread v).bind fun v' => (reread gs d).map (Draft.cons (some v'))).map embed = _
            rw [Option.map_bind]
            exact congrArg _ (funext fun v' => Option.map_map embed _ _)
          rw [hmembers] at hfuel ⊢
          obtain ⟨fuel, rfl⟩ : ∃ n, fuel = n + 1 := ⟨fuel - 1, by simp at hfuel; omega⟩
          have hfuel' : (members gs d).length < fuel := by simpa using hfuel
          have htext : inRow first (writeMember (writeString g.name) (g.kind.write v) ::
                members gs d) ++ 0x7D :: rest =
              Reader.comma first ++ (writeString g.name ++ 0x3A :: (g.kind.write v ++
                (inRow false (members gs d) ++ 0x7D :: rest))) := by
            simp [inRow, writeMember]
          rw [htext, hreread]
          exact gives_readMembers_cons (hfill g.name (by simp) _) v first
            (delimited_inRow_objectEnd (members gs d) rest) fun v' =>
              ih d (fun d => embed (Draft.cons (some v') d)) (hembed (some v')) hnodup.2 false hfuel'

theorem members_ne_nil (fs : List Field) (d : Draft fs) : ∀ w ∈ members fs d, w ≠ [] := by
  induction fs with
  | nil => simp [members]
  | cons f rest ih =>
      obtain ⟨v?, d, rfl⟩ := d.exists_cons
      cases v? with
      | none => exact ih d
      | some v =>
          refine List.forall_mem_cons.mpr ⟨?_, ih d⟩
          simp [writeMember]

/-! ### Whole records -/

/-- What reading the members comes to: the row that they and the defaults give. -/
def completed {s : Shape} (d : Draft s.fields) : Reader (Row s.fields) :=
  match d.complete s.fields with
  | .ok row => pure row
  | .error c => Reader.fail c

/-- An object of some fields is read to its end, and comes to what they and the defaults of the other
fields give. -/
theorem spells_members {s : Shape} (hnodup : (s.fields.map Field.name).Nodup) (d : Draft s.fields) :
    Spells (Row.read s) (writeObject (d.members s.fields))
      ((d.reread s.fields).bind fun d' => (d'.complete s.fields).toOption) := by
  refine ⟨⟨rfl, by decide⟩, fun rest _ => ?_⟩
  have htext : writeObject (d.members s.fields) ++ rest =
      0x7B :: (inRow true (d.members s.fields) ++ 0x7D :: rest) := by
    simp [writeObject, commaSeparated_eq_inRow]
  have hlen := length_le_inRow (members_ne_nil s.fields d) true
  have hfuel : (d.members s.fields).length <
      (inRow true (d.members s.fields) ++ 0x7D :: rest).length + 1 := by
    simp only [List.length_append]
    omega
  have hmembers := gives_readMembers s.fields d id (fun k _ d => (id_map _).symm) hnodup true hfuel rest
  have hread : Row.read s (0x7B :: (inRow true (d.members s.fields) ++ 0x7D :: rest)) =
      (Row.readMembers s.fields ((inRow true (d.members s.fields) ++ 0x7D :: rest).length + 1) true
          (Draft.empty s.fields) >>= completed) (inRow true (d.members s.fields) ++ 0x7D :: rest) := rfl
  rw [htext, hread]
  rw [Option.map_id, id_eq] at hmembers
  refine hmembers.bind fun d' _ => ?_
  unfold completed
  cases d'.complete s.fields with
  | ok row => rfl
  | error c => exact ⟨_, rfl⟩

end Draft

namespace Row

/-- A written row is read to its end, and comes to what its fields come to. -/
theorem spells_write {s : Shape} (h : RegularFields s.fields) (row : Row s.fields) :
    Spells (read s) (write s row) (reread s.fields row) := by
  rw [write, ← members_draft, ← reread_draft h.regular]
  exact Draft.spells_members h.nodup _

/-- A written list of objects does not read as a record that begins with a text. -/
theorem read_objects {title name : String} {fs : List Field} {ws : List Bytes}
    (h : ∀ w ∈ ws, ∃ bs, w = 0x7B :: bs) :
    ∃ e, read ⟨title, .required name .text :: fs⟩ (writeList ws) = .error e := by
  have htext : writeList ws = 0x5B :: (inRow true ws ++ [0x5D]) := by
    simp [writeList, commaSeparated_eq_inRow]
  have hitems : ∃ e, readItems (Shape.expectedList ⟨title, .required name .text :: fs⟩)
      (.required name .text :: fs) 0 (inRow true ws ++ [0x5D]) = .error e := by
    rw [readItems]
    cases ws with
    | nil => exact ⟨_, Reader.bind_ok (Reader.moreItems_end true [])⟩
    | cons w ws =>
        obtain ⟨bs, rfl⟩ := h w (by simp)
        have hstart : StartsValue (0x7B :: bs) := ⟨rfl, by decide⟩
        have hmore : Reader.moreItems true (inRow true ((0x7B :: bs) :: ws) ++ [0x5D]) =
            .ok (true, 0x7B :: bs ++ (inRow false ws ++ [0x5D])) := by
          rw [inRow, List.append_assoc, List.append_assoc]
          exact Reader.moreItems_comma true hstart _
        have hvalue : ∃ e, Reader.within (.index 0) Reader.text
            (0x7B :: bs ++ (inRow false ws ++ [0x5D])) = .error e := ⟨_, rfl⟩
        obtain ⟨e, he⟩ := hvalue
        exact ⟨e, (Reader.bind_ok hmore).trans (Reader.bind_error he)⟩
  obtain ⟨e, he⟩ := hitems
  refine ⟨e, ?_⟩
  rw [htext, read, Reader.bind_ok (Reader.get_eq _)]
  have hset : (set (inRow true ws ++ [0x5D]) : Reader Unit) (0x5B :: (inRow true ws ++ [0x5D])) =
      .ok ((), inRow true ws ++ [0x5D]) := rfl
  exact (Reader.bind_ok hset).trans (Reader.bind_error he)

end Row

/-- A record that was written comes to what its fields come to. -/
theorem spells_record {α : Type} [r : Record α] (h : RegularFields r.shape.fields) (a : α) :
    Spells (Coded.read : Reader α) (encode a)
      ((Row.reread r.shape.fields (r.toRow a)).map r.ofRow) :=
  (Row.spells_write h (r.toRow a)).map r.ofRow

end TodoPromo.Json
