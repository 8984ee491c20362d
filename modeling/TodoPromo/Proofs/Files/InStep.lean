import TodoPromo.Files.Faults
import TodoPromo.Proofs.Files.Directories
import TodoPromo.Proofs.Files.MapFiles
import TodoPromo.Proofs.Store.Outcomes

/-! # Memory and file in step

On a disk that fails as it likes, a map is either opened as on a disk without faults, or not at all
(`load_cases`); and a table is either saved as without faults, or only the temporary file may have
changed (`save_cases`). So a map that was opened stays in step with its file, whatever fails: it is
always what a new map on the same file would be (`in_step`). -/

namespace TodoPromo.Files

namespace FaultyTree

variable {φ β : Type} [DiskFaultPlan φ]

theorem run_guard_cases (call : DiskCall) (left : DiskFault → Tree → Tree) (x : Attempt Tree β)
    (s : FaultyTree φ) :
    (∃ f plan, (guard call left x).run s = (.error (.other f.text), ⟨left f s.tree, plan⟩)) ∨
      ∃ plan, (guard call left x).run s = ((x.run s.tree).1, ⟨(x.run s.tree).2, plan⟩) := by
  unfold guard
  cases hstrike : DiskFaultPlan.strike call s.plan with
  | mk f? plan =>
      cases f? with
      | some f =>
          refine .inl ⟨f, plan, ?_⟩
          simp only [ExceptT.run_mk, hstrike]
      | none =>
          refine .inr ⟨plan, ?_⟩
          simp only [ExceptT.run_mk, hstrike]
          rfl

theorem partlyWritten_cases (path : String) (f : DiskFault) (t : Tree) :
    partlyWritten path f t = t ∨ ∃ c, t.write path c = .ok (partlyWritten path f t) := by
  unfold partlyWritten
  cases f.part with
  | none => exact .inl rfl
  | some c =>
      dsimp only
      cases hwrite : t.write path c with
      | error e => exact .inl rfl
      | ok t' => exact .inr ⟨c, hwrite⟩

end FaultyTree

namespace MapFile

variable {φ κ α : Type} [DiskFaultPlan φ] [DecidableEq κ] [Json.CodedKey κ] [Json.Coded α]
  {path : String}

open FaultyTree

theorem save_cases (path : String) (table : Table κ α) (s : FaultyTree φ) :
    (∃ s', (save path table).outcome s = (.ok (), s') ∧
        (save path table).outcome s.tree = (.ok (), s'.tree)) ∨
      ∃ e s', (save path table).outcome s = (.error e, s') ∧
        (s'.tree = s.tree ∨ ∃ c, s.tree.write (temporaryPath path) c = .ok s'.tree) := by
  rw [outcome_save]
  obtain ⟨f, plan, hstruck⟩ | ⟨plan, hacted⟩ := run_guard_cases .write
    (partlyWritten (temporaryPath path)) (Disk.write (temporaryPath path) (Json.encode table)) s
  · refine .inr ⟨_, _, Attempt.outcome_error (Attempt.run_bind_error hstruck), ?_⟩
    exact partlyWritten_cases (temporaryPath path) f s.tree
  · cases hwrite : s.tree.write (temporaryPath path) (Json.encode table) with
    | error e =>
        rw [Attempt.run_write_error hwrite] at hacted
        exact .inr ⟨_, _, Attempt.outcome_error (Attempt.run_bind_error hacted), .inl rfl⟩
    | ok written =>
        rw [Attempt.run_write_ok hwrite] at hacted
        dsimp only
        have hnext : (do
            Disk.write (temporaryPath path) (Json.encode table)
            Disk.rename (temporaryPath path) path : Attempt (FaultyTree φ) Unit).run s =
            (Disk.rename (temporaryPath path) path : Attempt (FaultyTree φ) Unit).run
              ⟨written, plan⟩ :=
          Attempt.run_bind_ok hacted
        obtain ⟨f, plan', hstruck⟩ | ⟨plan', hacted'⟩ := run_guard_cases .rename untouched
          (Disk.rename (temporaryPath path) path) (⟨written, plan⟩ : FaultyTree φ)
        · have hfailed := hnext.trans hstruck
          exact .inr ⟨_, _, Attempt.outcome_error hfailed, .inr ⟨_, hwrite⟩⟩
        · cases hrename : written.rename (temporaryPath path) path with
          | error e =>
              rw [Attempt.run_rename_error hrename] at hacted'
              have hfailed := hnext.trans hacted'
              exact .inr ⟨_, _, Attempt.outcome_error hfailed, .inr ⟨_, hwrite⟩⟩
          | ok renamed =>
              rw [Attempt.run_rename_ok hrename] at hacted'
              have hsaved := hnext.trans hacted'
              exact .inl ⟨_, Attempt.outcome_ok hsaved, rfl⟩

theorem makeParent_cases (path : String) (s : FaultyTree φ) :
    (∃ s', (makeParent path).outcome s = (.ok (), s') ∧
        (makeParent path : Action Tree Unit).outcome s.tree = (.ok (), s'.tree)) ∨
      ∃ e s', (makeParent path).outcome s = (.error e, s') ∧
        s.tree.AddsDirectories s'.tree := by
  unfold makeParent
  cases hparent : parent? path with
  | none => exact .inl ⟨s, rfl, rfl⟩
  | some dir =>
      obtain ⟨f, plan, hstruck⟩ | ⟨plan, hacted⟩ :=
        run_guard_cases .makeDirs untouched (Disk.makeDirs dir) s
      · exact .inr ⟨_, _, Attempt.outcome_error hstruck, .refl s.tree⟩
      · have hspec := Tree.makeDirsFrom_spec s.tree (dir.length + 1) dir
        have hrun : (Disk.makeDirs dir : Attempt Tree Unit).run s.tree =
            s.tree.makeDirsFrom (dir.length + 1) dir := rfl
        cases hmade : s.tree.makeDirsFrom (dir.length + 1) dir with
        | mk r t =>
            rw [hmade] at hrun hspec
            rw [hrun] at hacted
            cases r with
            | error e => exact .inr ⟨_, _, Attempt.outcome_error hacted, hspec.1⟩
            | ok u =>
                exact .inl ⟨_, Attempt.outcome_ok hacted, Attempt.outcome_ok hrun⟩

theorem read_cases (path : String) (s : FaultyTree φ) :
    ∃ plan, (Disk.read path : Attempt (FaultyTree φ) Bytes).run s =
        (s.tree.read path, ⟨s.tree, plan⟩) ∨
      ∃ text, (Disk.read path : Attempt (FaultyTree φ) Bytes).run s =
        (.error (.other text), ⟨s.tree, plan⟩) := by
  obtain ⟨f, plan, hstruck⟩ | ⟨plan, hacted⟩ :=
    run_guard_cases .read untouched (Disk.read path) s
  · exact ⟨plan, .inr ⟨f.text, hstruck⟩⟩
  · exact ⟨plan, .inl hacted⟩

theorem writeNew_cases {s : FaultyTree φ} (hread : s.tree.read path = .error .notFound) (c : Bytes) :
    (∃ s', (Disk.write path c : Attempt (FaultyTree φ) Unit).run s = (.ok (), s') ∧
        s.tree.write path c = .ok s'.tree) ∨
      ∃ e s', (Disk.write path c : Attempt (FaultyTree φ) Unit).run s = (.error e, s') ∧
        s.tree.Grows s'.tree := by
  obtain ⟨f, plan, hstruck⟩ | ⟨plan, hacted⟩ :=
    run_guard_cases .write (partlyWritten path) (Disk.write path c) s
  · refine .inr ⟨_, _, hstruck, ?_⟩
    obtain hsame | ⟨part, hpart⟩ := partlyWritten_cases path f s.tree
    · rw [hsame]
      exact .refl s.tree
    · obtain ⟨d, -, -, hgrows⟩ := Tree.new_of_write hread hpart
      exact hgrows
  · cases hwrite : s.tree.write path c with
    | error e =>
        rw [Attempt.run_write_error hwrite] at hacted
        exact .inr ⟨_, _, hacted, .refl s.tree⟩
    | ok t =>
        rw [Attempt.run_write_ok hwrite] at hacted
        exact .inl ⟨_, hacted, rfl⟩

/-- A map is loaded as on the tree alone, or that fails and everything that was there before is
there still. -/
theorem load_cases (path : String) (s : FaultyTree φ) :
    (∃ (m : MapFile κ α) (s' : FaultyTree φ), (load path).outcome s = (.ok m, s') ∧
        (load path : Action Tree (MapFile κ α)).outcome s.tree = (.ok m, s'.tree)) ∨
      ∃ e s', (load path : Action (FaultyTree φ) (MapFile κ α)).outcome s = (.error e, s') ∧
        s.tree.Grows s'.tree := by
  obtain ⟨s₁, hparent, hparent'⟩ | ⟨e, s₁, hparent, hadds⟩ := makeParent_cases path s
  · have hadds := (makeParent_spec hparent').1
    rw [outcome_load hparent']
    unfold load
    rw [Action.outcome_bind_ok hparent, Action.outcome_ofFunction]
    obtain ⟨plan, hread | ⟨text, hread⟩⟩ := read_cases path s₁
    · rw [hread]
      cases hcontents : s₁.tree.read path with
      | ok c =>
          dsimp only
          cases (decodeTable path c : Except ActionError (Table κ α)) with
          | error e => exact .inr ⟨_, _, rfl, hadds.grows⟩
          | ok table => exact .inl ⟨_, _, rfl, rfl⟩
      | error e =>
          cases e with
          | notFound =>
              dsimp only
              obtain ⟨s₂, hwrite, hwrite'⟩ | ⟨e, s₂, hwrite, hgrows⟩ :=
                writeNew_cases (s := ⟨s₁.tree, plan⟩) hcontents (Json.encode (∅ : Table κ α))
              · refine .inl ⟨⟨path, ∅⟩, s₂, Attempt.outcome_ok (Attempt.run_bind_ok hwrite), ?_⟩
                dsimp only at hwrite'
                rw [hwrite']
              · exact .inr ⟨_, _, Attempt.outcome_error (Attempt.run_bind_error hwrite),
                  hadds.grows.trans hgrows⟩
          | _ => exact .inr ⟨_, _, rfl, hadds.grows⟩
    · rw [hread]
      exact .inr ⟨_, _, rfl, hadds.grows⟩
  · refine .inr ⟨e, s₁, ?_, hadds.grows⟩
    unfold load
    exact Action.outcome_bind_error hparent

/-! ### Insertions -/

theorem InStep.of_temporary {m : MapFile κ α} {t t' : Tree} (h : InStep m t)
    (hwrite : t' = t ∨ ∃ c, t.write (temporaryPath m.path) c = .ok t') :
    InStep m t' ∧ t'.read m.path = t.read m.path := by
  obtain rfl | ⟨part, hpart⟩ := hwrite
  · exact ⟨h, rfl⟩
  · obtain ⟨c, hread, hdecode⟩ := h.stored
    have hread' := Tree.read_of_write_temporary hread hpart
    exact ⟨⟨h.housed.extends (Tree.extends_write hpart), c, hread', hdecode⟩,
      hread'.trans hread.symm⟩

/-- What an insertion may come to, from one state to another. -/
inductive Inserted (key : κ) (value : α) :
    Except ActionError Unit → MapFile κ α × Tree → MapFile κ α × Tree → Prop where
  | failed (e : ActionError) {m : MapFile κ α} {t t' : Tree} (file : t'.read m.path = t.read m.path) :
      Inserted key value (.error e) (m, t) (m, t')
  | done {m : MapFile κ α} {table : Table κ α} {t t' : Tree}
      (others : ∀ k, table.get? k = if key = k then some value else m.table.get? k) :
      Inserted key value (.ok ()) (m, t) (⟨m.path, table⟩, t')

/-- An insertion keeps memory and file in step. -/
theorem InStep.insert [Json.ReadsBack (Table κ α)] {m : MapFile κ α} {s : FaultyTree φ}
    (h : InStep m s.tree) (key : κ) (value : α) :
    ∃ r m' s', (MapFile.insert key value).outcome (m, s) = (r, (m', s')) ∧
      Inserted key value r (m, s.tree) (m', s'.tree) ∧ InStep m' s'.tree := by
  rw [outcome_insert]
  obtain ⟨s', hsave, hsave'⟩ | ⟨e, s', hsave, htemporary⟩ :=
    save_cases m.path (m.table.insert key value) s
  · rw [hsave]
    obtain ⟨hextends, hread⟩ := save_spec hsave'
    exact ⟨_, _, _, rfl, .done fun k => Table.get?_insert m.table key k value,
      h.housed.extends hextends, _, hread, decodeTable_encode _ _⟩
  · rw [hsave]
    obtain ⟨hstep, hfile⟩ := h.of_temporary htemporary
    exact ⟨_, _, _, rfl, .failed e hfile, hstep⟩

/-- One insertion after another. -/
def insertAll (es : List (κ × α)) (s : MapFile κ α × FaultyTree φ) : MapFile κ α × FaultyTree φ :=
  (inTurn (fun e => (MapFile.insert e.1 e.2).outcome) es s).2

theorem InStep.insertAll [Json.ReadsBack (Table κ α)] {m : MapFile κ α} {s : FaultyTree φ}
    (h : InStep m s.tree) (es : List (κ × α)) :
    (insertAll es (m, s)).1.path = m.path ∧
      InStep (insertAll es (m, s)).1 (insertAll es (m, s)).2.tree := by
  induction es generalizing m s with
  | nil => exact ⟨rfl, h⟩
  | cons e es ih =>
      obtain ⟨r, m', s', hinsert, hinserted, hstep⟩ := h.insert e.1 e.2
      have hnext : MapFile.insertAll (e :: es) (m, s) = MapFile.insertAll es (m', s') := by
        change MapFile.insertAll es ((MapFile.insert e.1 e.2).outcome (m, s)).2 = _
        rw [hinsert]
      have hpath : m'.path = m.path := by cases hinserted <;> rfl
      rw [hnext, ← hpath]
      exact ih hstep

/-! ### The whole life of a map -/

/-- Memory and file stay in step, whatever fails. To open a map changes nothing that was there
before; a file that is neither empty nor readable is not opened; and a map that is opened has the
table of its file, or none if the file is missing or empty. From then on, after any insertions, a
new map on the same file is the map in memory; and the next insertion either fails and leaves the
map and the contents of the file as they were, or changes just its own key. -/
theorem in_step [Json.ReadsBack (Table κ α)] (path : String) (s : FaultyTree φ) :
    let opened := (load path : Action (FaultyTree φ) (MapFile κ α)).outcome s
    s.tree.Grows opened.2.tree ∧
      (∀ d c, opened.2.tree.spot path = .ok d → s.tree.node? d.location = some (.file c) →
        c ≠ [] → (∀ table : Table κ α, Json.decode c ≠ .ok table) → ∃ e, opened.1 = .error e) ∧
      ∀ m, opened.1 = .ok m → m.path = path ∧ Origin path s.tree opened.2.tree m.table ∧
        ∀ es : List (κ × α), let now := MapFile.insertAll es (m, opened.2)
          (load path).outcome now.2.tree = (.ok now.1, now.2.tree) ∧
            ∀ key value, ∃ r m' s', (MapFile.insert key value).outcome now = (r, (m', s')) ∧
              Inserted key value r (now.1, now.2.tree) (m', s'.tree) := by
  intro opened
  obtain ⟨m, s', hload, hload'⟩ | ⟨e, s', hload, hgrows⟩ := load_cases (κ := κ) (α := α) path s
  · have hopened : opened = (.ok m, s') := hload
    obtain ⟨hpath, hgrows, hstep, horigin⟩ := load_spec hload'
    rw [hopened]
    refine ⟨hgrows, fun d c hd hfile hne hunreadable => ?_, ?_⟩
    · obtain ⟨hd', hnone, -⟩ | ⟨hd', hempty, -⟩ | ⟨hd', hspelled, hdecode⟩ := horigin
      all_goals obtain rfl := Except.ok.inj (hd.symm.trans hd')
      · rw [hfile] at hnone
        cases hnone
      · rw [hfile] at hempty
        exact absurd (Node.file.inj (Option.some.inj hempty)) hne
      · rw [hfile] at hspelled
        obtain rfl := Node.file.inj (Option.some.inj hspelled)
        exact absurd hdecode (hunreadable _)
    · intro m₁ hm₁
      obtain rfl := Except.ok.inj hm₁
      refine ⟨hpath, horigin, fun es => ?_⟩
      intro now
      obtain ⟨hsame, hnow⟩ := hstep.insertAll es
      have hreload := hnow.reload
      rw [hsame, hpath] at hreload
      refine ⟨hreload, fun key value => ?_⟩
      obtain ⟨r, m', s'', hinsert, hinserted, -⟩ := hnow.insert key value
      exact ⟨r, m', s'', hinsert, hinserted⟩
  · have hopened : opened = (.error e, s') := hload
    rw [hopened]
    exact ⟨hgrows, fun _ _ _ _ _ _ => ⟨e, rfl⟩, fun m hm => by cases hm⟩

theorem in_step_disk_full :
    let plan : List (Option DiskFault) := [none, none, none, some ⟨"disk full", some [0x7B]⟩]
    let opened := (load "data/x.json" : Action _ (MapFile String Bytes)).outcome
      (⟨Tree.empty, plan⟩ : FaultyTree (List (Option DiskFault)))
    ∃ m, opened.1 = .ok m ∧
      let now := MapFile.insertAll [("a", [1]), ("b", [2])] (m, opened.2)
      now.1.table = Table.ofList [("b", [2])] ∧
        (load "data/x.json").outcome now.2.tree = (.ok now.1, now.2.tree) := by
  intro plan opened
  have hruns : opened.1.toOption.map (fun m =>
      (MapFile.insertAll [("a", [1]), ("b", [2])] (m, opened.2)).1.table) =
        some (Table.ofList [("b", [2])]) := by
    decide +kernel
  have hreload : ∀ m, opened.1 = .ok m → ∀ es : List (String × Bytes),
      let now := MapFile.insertAll es (m, opened.2)
      (load "data/x.json").outcome now.2.tree = (.ok now.1, now.2.tree) := by
    intro m hm es
    obtain ⟨-, -, hopened⟩ := in_step (κ := String) (α := Bytes) "data/x.json"
      (⟨Tree.empty, plan⟩ : FaultyTree (List (Option DiskFault)))
    exact ((hopened m hm).2.2 es).1
  -- from here on the outcome of opening is not to be computed
  clear_value opened
  cases hm : opened.1 with
  | error e =>
      rw [hm] at hruns
      cases hruns
  | ok m =>
      rw [hm] at hruns
      exact ⟨m, rfl, Option.some.inj hruns, hreload m hm _⟩

end MapFile
end TodoPromo.Files
