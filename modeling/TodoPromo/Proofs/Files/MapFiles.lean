import TodoPromo.Files.MapFile
import TodoPromo.Proofs.Files.Trees
import TodoPromo.Proofs.Json.Lists
import TodoPromo.Proofs.Json.WrittenNumbers
import TodoPromo.Proofs.Store.Outcomes

/-! # Maps kept in files of a tree

What loading and saving come to on a tree of files (`outcome_load`, `outcome_save`). A map that was
loaded can be loaded again as it was (`load_spec`, `load_of_housed`), and after an insertion that is
acknowledged the file holds the whole table of the handle that made it (`insert_spec`). -/

namespace TodoPromo

/-- A type whose values are read back as they were written. -/
class Json.ReadsBack (α : Type) [Json.Coded α] : Prop where
  decode_encode (a : α) : Json.decode (Json.encode a) = .ok a

namespace Files

/-! ### Attempts -/

namespace Attempt

variable {δ β γ : Type} {x : Attempt δ β} {f : β → Attempt δ γ} {b : β} {e : IoError} {s s' : δ}

theorem run_bind_ok (h : x.run s = (.ok b, s')) : (x >>= f).run s = (f b).run s' := by
  change (ExceptT.bindCont f (x.run s).1) (x.run s).2 = _
  rw [h]
  rfl

theorem run_bind_error (h : x.run s = (.error e, s')) : (x >>= f).run s = (.error e, s') := by
  change (ExceptT.bindCont f (x.run s).1) (x.run s).2 = _
  rw [h]
  rfl

theorem outcome_ok (h : x.run s = (.ok b, s')) : x.toAction.outcome s = (.ok b, s') := by
  unfold toAction
  rw [Action.outcome_ofFunction, h]

theorem outcome_error (h : x.run s = (.error e, s')) :
    x.toAction.outcome s = (.error (.storage e.message), s') := by
  unfold toAction
  rw [Action.outcome_ofFunction, h]

theorem run_ofUpdate_ok {g : Tree → Except IoError Tree} {t t' : Tree} (h : g t = .ok t') :
    (ofUpdate g).run t = (.ok (), t') := by
  unfold ofUpdate
  simp only [ExceptT.run_mk, h]

theorem run_ofUpdate_error {g : Tree → Except IoError Tree} {t : Tree} (h : g t = .error e) :
    (ofUpdate g).run t = (.error e, t) := by
  unfold ofUpdate
  simp only [ExceptT.run_mk, h]

theorem run_write_ok {path : String} {c : Bytes} {t t' : Tree} (h : t.write path c = .ok t') :
    (Disk.write path c : Attempt Tree Unit).run t = (.ok (), t') :=
  run_ofUpdate_ok (g := (·.write path c)) h

theorem run_write_error {path : String} {c : Bytes} {t : Tree} (h : t.write path c = .error e) :
    (Disk.write path c : Attempt Tree Unit).run t = (.error e, t) :=
  run_ofUpdate_error (g := (·.write path c)) h

theorem run_rename_ok {source target : String} {t t' : Tree}
    (h : t.rename source target = .ok t') :
    (Disk.rename source target : Attempt Tree Unit).run t = (.ok (), t') :=
  run_ofUpdate_ok (g := (·.rename source target)) h

theorem run_rename_error {source target : String} {t : Tree}
    (h : t.rename source target = .error e) :
    (Disk.rename source target : Attempt Tree Unit).run t = (.error e, t) :=
  run_ofUpdate_error (g := (·.rename source target)) h

end Attempt

/-! ### Tables -/

instance : Json.ReadsBack (Table String Bytes) where
  decode_encode _ :=
    Json.decode_of_spells (Json.spells_table (fun _ _ => Json.spellsKey_writeString _)
      fun _ _ => Json.spells_writeList fun b _ => Json.spells_writeByte b)

namespace MapFile

variable {κ α : Type} [DecidableEq κ] [Json.CodedKey κ] [Json.Coded α]
  {t t' : Tree} {path : String} {table : Table κ α}

theorem decodeTable_encode [Json.ReadsBack (Table κ α)] (path : String) (table : Table κ α) :
    decodeTable path (Json.encode table) = .ok table := by
  unfold decodeTable
  rw [if_neg (by exact Bool.false_ne_true), Json.ReadsBack.decode_encode]

/-- The order in which the entries are written does not matter: whichever it is, the table that is read
back has the same view. -/
theorem decodeTable_encode_of_perm [Json.ReadsBack (Table κ α)] (path : String)
    {arranged : Table κ α} (h : arranged.entries.Perm table.entries) :
    ∃ read, decodeTable path (Json.encode arranged) = .ok read ∧
      ∀ key, read.get? key = table.get? key :=
  ⟨arranged, decodeTable_encode path arranged, Table.get?_of_perm h⟩

theorem decodeTable_eq_ok {c : Bytes} (h : decodeTable path c = .ok table) :
    c = [] ∧ table = ∅ ∨ Json.decode c = .ok table := by
  unfold decodeTable at h
  split at h
  · rename_i hempty
    exact .inl ⟨List.isEmpty_iff.mp hempty, (Except.ok.inj h).symm⟩
  · split at h
    · rename_i hdecode
      rw [hdecode, Except.ok.inj h]
      exact .inr rfl
    · cases h

/-! ### Saving -/

theorem outcome_save (path : String) (table : Table κ α) (t : Tree) :
    (save path table : Action Tree Unit).outcome t =
      match t.write (temporaryPath path) (Json.encode table) with
      | .error e => (.error (.storage e.message), t)
      | .ok written => match written.rename (temporaryPath path) path with
        | .error e => (.error (.storage e.message), written)
        | .ok renamed => (.ok (), renamed) := by
  unfold save
  cases hwrite : t.write (temporaryPath path) (Json.encode table) with
  | error e =>
      exact Attempt.outcome_error (Attempt.run_bind_error (Attempt.run_write_error hwrite))
  | ok written =>
      dsimp only
      have hnext : (do
          Disk.write (temporaryPath path) (Json.encode table)
          Disk.rename (temporaryPath path) path : Attempt Tree Unit).run t =
          (Disk.rename (temporaryPath path) path : Attempt Tree Unit).run written :=
        Attempt.run_bind_ok (Attempt.run_write_ok hwrite)
      cases hrename : written.rename (temporaryPath path) path with
      | error e =>
          rw [Attempt.run_rename_error hrename] at hnext
          exact Attempt.outcome_error hnext
      | ok renamed =>
          rw [Attempt.run_rename_ok hrename] at hnext
          exact Attempt.outcome_ok hnext

/-- The ways in which saving can end: nothing is written, or the temporary file alone, or it takes the
place of the file. -/
inductive Saved (path : String) (contents : Bytes) (t : Tree) :
    Except ActionError Unit → Tree → Prop where
  | unwritten (e : ActionError) : Saved path contents t (.error e) t
  | unmoved (e : ActionError) {written : Tree}
      (hwrite : t.write (temporaryPath path) contents = .ok written) :
      Saved path contents t (.error e) written
  | moved {written renamed : Tree} (hwrite : t.write (temporaryPath path) contents = .ok written)
      (hrename : written.rename (temporaryPath path) path = .ok renamed) :
      Saved path contents t (.ok ()) renamed

theorem saved_of_save {r : Except ActionError Unit}
    (h : (save path table : Action Tree Unit).outcome t = (r, t')) :
    Saved path (Json.encode table) t r t' := by
  rw [outcome_save] at h
  cases hwrite : t.write (temporaryPath path) (Json.encode table) with
  | error e =>
      simp only [hwrite, Prod.mk.injEq] at h
      obtain ⟨rfl, rfl⟩ := h
      exact .unwritten _
  | ok written =>
      cases hrename : written.rename (temporaryPath path) path with
      | error e =>
          simp only [hwrite, hrename, Prod.mk.injEq] at h
          obtain ⟨rfl, rfl⟩ := h
          exact .unmoved _ hwrite
      | ok renamed =>
          simp only [hwrite, hrename, Prod.mk.injEq] at h
          obtain ⟨rfl, rfl⟩ := h
          exact .moved hwrite hrename

/-- A table that was saved is what its file holds; no directory is gone. -/
theorem save_spec (h : (save path table : Action Tree Unit).outcome t = (.ok (), t')) :
    t.Extends t' ∧ t'.read path = .ok (Json.encode table) := by
  cases saved_of_save h with
  | moved hwrite hrename =>
      obtain ⟨hextends, hread⟩ := Tree.rename_spec hrename (Tree.read_write hwrite)
      exact ⟨(Tree.extends_write hwrite).trans hextends, hread⟩

theorem outcome_insert {δ : Type} [Disk δ] (m : MapFile κ α) (s : δ) (key : κ) (value : α) :
    (MapFile.insert key value).outcome (m, s) =
      match (save m.path (m.table.insert key value)).outcome s with
      | (.ok (), s') => (.ok (), ({ m with table := m.table.insert key value }, s'))
      | (.error e, s') => (.error e, (m, s')) := by
  unfold MapFile.insert
  rw [Action.outcome_ofFunction]
  cases hsave : (save m.path (m.table.insert key value)).outcome s with
  | mk r s' =>
      cases r with
      | ok u =>
          simp only [hsave]
      | error e =>
          simp only [hsave, restored_eq]

/-- An insertion that is acknowledged changes the table, and puts the whole table in the file. -/
theorem insert_spec {m m' : MapFile κ α} {key : κ} {value : α}
    (h : (MapFile.insert key value).outcome (m, t) = (.ok (), (m', t'))) :
    m' = { m with table := m.table.insert key value } ∧ t.Extends t' ∧
      t'.read m.path = .ok (Json.encode (m.table.insert key value)) := by
  rw [outcome_insert] at h
  cases hsave : (save m.path (m.table.insert key value)).outcome t with
  | mk r s =>
      rw [hsave] at h
      cases r with
      | error e => cases (Prod.mk.inj h).1
      | ok u =>
          obtain ⟨rfl, rfl⟩ := Prod.mk.inj (Prod.mk.inj h).2
          exact ⟨rfl, save_spec hsave⟩

/-! ### Loading -/

/-- The directory of a file is there. -/
def Housed (path : String) (t : Tree) : Prop :=
  ∀ dir, parent? path = some dir → dir.isEmpty = true ∨ t.isDirectory dir = true

theorem Housed.extends (h : Housed path t) (he : t.Extends t') : Housed path t' :=
  fun dir hdir => (h dir hdir).imp_right he.isDirectory

theorem makeParent_of_housed (h : Housed path t) :
    (makeParent path : Action Tree Unit).outcome t = (.ok (), t) := by
  unfold makeParent
  cases hparent : parent? path with
  | none => rfl
  | some dir =>
      exact Attempt.outcome_ok (Tree.makeDirsFrom_of_isDirectory (h dir hparent) dir.length)

theorem makeParent_spec {r : Except ActionError Unit}
    (h : (makeParent path : Action Tree Unit).outcome t = (r, t')) :
    t.AddsDirectories t' ∧ (r = .ok () → Housed path t') := by
  unfold makeParent at h
  cases hparent : parent? path with
  | none =>
      rw [hparent] at h
      obtain ⟨-, rfl⟩ := Prod.mk.inj h
      exact ⟨.refl t, fun _ dir hdir => by rw [hparent] at hdir; cases hdir⟩
  | some dir =>
      rw [hparent] at h
      obtain ⟨hadds, hthere⟩ := Tree.makeDirsFrom_spec t (dir.length + 1) dir
      have hrun : (Disk.makeDirs dir : Attempt Tree Unit).run t =
          t.makeDirsFrom (dir.length + 1) dir := rfl
      cases hmade : t.makeDirsFrom (dir.length + 1) dir with
      | mk made s =>
          rw [hmade] at hadds hthere hrun
          cases made with
          | error e =>
              obtain ⟨rfl, rfl⟩ := Prod.mk.inj (h.symm.trans (Attempt.outcome_error hrun))
              exact ⟨hadds, fun hok => by cases hok⟩
          | ok u =>
              obtain ⟨rfl, rfl⟩ := Prod.mk.inj (h.symm.trans (Attempt.outcome_ok hrun))
              refine ⟨hadds, fun _ dir' hdir' => ?_⟩
              obtain rfl : dir = dir' := Option.some.inj (hparent.symm.trans hdir')
              exact hthere rfl

theorem outcome_load (h : (makeParent path : Action Tree Unit).outcome t = (.ok (), t')) :
    (load path : Action Tree (MapFile κ α)).outcome t =
      match t'.read path with
      | .ok c => ((decodeTable path c).map (MapFile.mk path), t')
      | .error .notFound => match t'.write path (Json.encode (∅ : Table κ α)) with
        | .ok made => (.ok ⟨path, ∅⟩, made)
        | .error e => (.error (.storage e.message), t')
      | .error e => (.error (.storage e.message), t') := by
  unfold load
  rw [Action.outcome_bind_ok h, Action.outcome_ofFunction]
  have hrun : (Disk.read path : Attempt Tree Bytes).run t' = (t'.read path, t') := rfl
  rw [hrun]
  cases hread : t'.read path with
  | ok c => rfl
  | error e =>
      cases e with
      | notFound =>
          cases hwrite : t'.write path (Json.encode (∅ : Table κ α)) with
          | error e => exact Attempt.outcome_error (Attempt.run_bind_error (Attempt.run_write_error hwrite))
          | ok made => exact Attempt.outcome_ok ((Attempt.run_bind_ok (Attempt.run_write_ok hwrite)).trans rfl)
      | _ => rfl

/-- A file that spells a table, in a directory that is there, is loaded as that table, and loading
it changes nothing. -/
theorem load_of_housed {c : Bytes} (h : Housed path t) (hread : t.read path = .ok c)
    (hdecode : decodeTable path c = .ok table) :
    (load path : Action Tree (MapFile κ α)).outcome t = (.ok ⟨path, table⟩, t) := by
  rw [outcome_load (makeParent_of_housed h), hread]
  simp only [hdecode]
  rfl

/-- The table of a map is the one that its file spells, in a directory that is there. -/
structure InStep (m : MapFile κ α) (t : Tree) : Prop where
  housed : Housed m.path t
  stored : ∃ c, t.read m.path = .ok c ∧ decodeTable m.path c = .ok m.table

/-- A map that is in step with its file is what loading the file gives. -/
theorem InStep.reload {m : MapFile κ α} (h : InStep m t) :
    (load m.path : Action Tree (MapFile κ α)).outcome t = (.ok m, t) := by
  obtain ⟨c, hread, hdecode⟩ := h.stored
  exact load_of_housed h.housed hread hdecode

/-- Where a table comes from that was loaded: from nothing, or from what the tree had before at the
place of the file. -/
inductive Origin (path : String) (before after : Tree) (table : Table κ α) : Prop where
  | missing {d : Spot} (spot : after.spot path = .ok d) (node : before.node? d.location = none)
      (empty : table = ∅)
  | empty {d : Spot} (spot : after.spot path = .ok d)
      (node : before.node? d.location = some (.file [])) (empty : table = ∅)
  | spelled {d : Spot} {c : Bytes} (spot : after.spot path = .ok d)
      (node : before.node? d.location = some (.file c)) (decode : Json.decode c = .ok table)

theorem origin_of_read {c : Bytes} (hadds : t.AddsDirectories t') (hread : t'.read path = .ok c)
    (hdecode : decodeTable path c = .ok table) : Origin path t t' table := by
  obtain ⟨d, hd, hfile, -⟩ := Tree.spot_of_read hread
  have hnode : t'.node? d.location = some (.file c) := by
    obtain hdirectory | hsame := Tree.node_of_spot hd
    · rw [hfile] at hdirectory
      cases hdirectory
    · exact hsame.symm.trans hfile
  have hbefore := hadds.file hnode
  obtain ⟨rfl, hempty⟩ | hdecode := decodeTable_eq_ok hdecode
  · exact .empty hd hbefore hempty
  · exact .spelled hd hbefore hdecode

/-- A map that was loaded is in step with its file, and whatever was there before is there still. -/
theorem load_spec [Json.ReadsBack (Table κ α)] {m : MapFile κ α}
    (h : (load path : Action Tree (MapFile κ α)).outcome t = (.ok m, t')) :
    m.path = path ∧ t.Grows t' ∧ InStep m t' ∧ Origin path t t' m.table := by
  cases hparent : (makeParent path : Action Tree Unit).outcome t with
  | mk r s =>
      obtain ⟨hadds, hhoused⟩ := makeParent_spec hparent
      cases r with
      | error e =>
          unfold load at h
          rw [Action.outcome_bind_error hparent] at h
          cases (Prod.mk.inj h).1
      | ok u =>
          rw [outcome_load hparent] at h
          cases hread : s.read path with
          | ok c =>
              simp only [hread] at h
              obtain ⟨htable, rfl⟩ := Prod.mk.inj h
              cases hdecode : (decodeTable path c : Except ActionError (Table κ α)) with
              | error e =>
                  rw [hdecode] at htable
                  cases htable
              | ok table =>
                  rw [hdecode] at htable
                  obtain rfl : MapFile.mk path table = m := Except.ok.inj htable
                  exact ⟨rfl, hadds.grows, ⟨hhoused rfl, c, hread, hdecode⟩,
                    origin_of_read hadds hread hdecode⟩
          | error e =>
              cases e with
              | notFound =>
                  simp only [hread] at h
                  cases hwrite : s.write path (Json.encode (∅ : Table κ α)) with
                  | error e =>
                      rw [hwrite] at h
                      cases (Prod.mk.inj h).1
                  | ok made =>
                      rw [hwrite] at h
                      obtain ⟨hm, rfl⟩ := Prod.mk.inj h
                      obtain rfl : MapFile.mk path ∅ = m := Except.ok.inj hm
                      obtain ⟨d, hd, hnone, hmade⟩ := Tree.new_of_write hread hwrite
                      have hbefore := hadds.grows.none hnone
                      exact ⟨rfl, hadds.grows.trans hmade,
                        ⟨(hhoused rfl).extends hmade.extends, _, Tree.read_write hwrite,
                          decodeTable_encode path ∅⟩, .missing hd hbefore rfl⟩
              | _ =>
                  simp only [hread] at h
                  cases (Prod.mk.inj h).1

end MapFile
end Files
end TodoPromo
