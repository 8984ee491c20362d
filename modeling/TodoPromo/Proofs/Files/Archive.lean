import TodoPromo.Proofs.Files.Shelves
import TodoPromo.Proofs.Store.Outcomes

/-! # A provider of files as an archive

A provider of namespaces in files that is the only one to use its directory, with restarts in
between, gives the answers of an archive in memory: a store for each namespace, all of which survive
restarts (`answered_as_archive`). The one exception is the namespace `.`, which can be opened and
read but never written (`answers_differ_at_point`). -/

namespace TodoPromo.Files

/-! ### Calls and steps -/

/-- A call on the store of an open namespace. -/
inductive StoreCall where
  | has (key : String)
  | get (key : String)
  | set (key : String) (value : Bytes)

/-- What a call returns. -/
inductive StoreReply where
  | present (yes : Bool)
  | value (v : Bytes)
  | done
  deriving DecidableEq

def StoreCall.action {σ : Type} [KeyValue σ] : StoreCall → Action σ StoreReply
  | has key => .present <$> KeyValue.has key
  | get key => .value <$> KeyValue.get key
  | set key value => (fun _ => .done) <$> KeyValue.set key value

/-- What can happen to a provider. -/
inductive ArchiveStep where
  | openNamespace (name : String)
  | call (name : String) (c : StoreCall)
  /-- The provider and all its handles are dropped, and there is a new one on the same directory. -/
  | restart

/-- What a step returns; a call on a namespace that is not open returns nothing. -/
abbrev ArchiveAnswer := Option (Except ActionError StoreReply)

/-- A step of a provider of files. -/
def FileProvider.step (x : ArchiveStep) (s : FileProvider × Tree) :
    ArchiveAnswer × (FileProvider × Tree) :=
  match x with
  | .openNamespace name =>
    let (r, s) := (FileProvider.openNamespace name).outcome s
    (some (r.map fun _ => .done), s)
  | .call name c =>
    match FileProvider.within name c.action s with
    | some (r, s) => (some r, s)
    | none => (none, s)
  | .restart => (some (.ok .done), (.ofDir s.1.dir, s.2))

/-- Stores in memory that survive restarts, and the namespaces opened since the last one. -/
structure Archive where
  spaces : MemoryProvider
  held : List String

namespace Archive

def empty : Archive := ⟨∅, []⟩

/-- A step of an archive; some calls may be refused. -/
def step (refusal? : String → StoreCall → Option ActionError) (x : ArchiveStep) (a : Archive) :
    ArchiveAnswer × Archive :=
  match x with
  | .openNamespace name => (some (.ok .done), ⟨a.spaces.openNamespace name, name :: a.held⟩)
  | .call name c =>
    if name ∈ a.held then
      match refusal? name c with
      | some e => (some (.error e), a)
      | none =>
        match MemoryProvider.within name c.action a.spaces with
        | some (r, spaces) => (some r, { a with spaces })
        | none => (none, a)
    else (none, a)
  | .restart => (some (.ok .done), { a with held := [] })

/-- An archive that does all that it is asked for. -/
def faithful (_ : String) (_ : StoreCall) : Option ActionError := none

/-- An archive in which the namespace `.` cannot be written. -/
def readOnlyPoint : String → StoreCall → Option ActionError
  | ".", .set _ _ => some (.storage IoError.isDirectory.message)
  | _, _ => none

end Archive

/-! ### Calls on one store -/

variable {dir name : String} {l : Location} {t : Tree} {a : Archive} {s : FileProvider × Tree}
  {spaces : MemoryProvider} {table : Contents}

namespace StoreCall

/-- What a call does on a table in memory. -/
def onTable (c : StoreCall) (table : Contents) : Except ActionError StoreReply × Contents :=
  (c.action : Action Contents StoreReply).outcome table

/-- What a call does on a table in memory that is kept in a file. -/
def onFile (c : StoreCall) (m : MapFile String Bytes) (t : Tree) :
    Except ActionError StoreReply × (MapFile String Bytes × Tree) :=
  (c.action : Action (MapFile String Bytes × Tree) StoreReply).outcome (m, t)

theorem onFile_set (key : String) (value : Bytes) (m : MapFile String Bytes) (t : Tree) :
    (set key value).onFile m t =
      match (MapFile.save m.path (m.table.insert key value)).outcome t with
      | (.ok (), t') => (.ok .done, (⟨m.path, m.table.insert key value⟩, t'))
      | (.error e, t') => (.error e, (m, t')) := by
  have hmap : (set key value).onFile m t =
      (((MapFile.insert key value).outcome (m, t)).1.map fun _ => .done,
        ((MapFile.insert key value).outcome (m, t)).2) :=
    Action.outcome_map _ _ _
  rw [hmap, MapFile.outcome_insert]
  cases (MapFile.save m.path (m.table.insert key value)).outcome t with
  | mk r t' => cases r <;> rfl

theorem onFile_get (key : String) (m : MapFile String Bytes) (t : Tree) :
    (get key).onFile m t =
      (match m.table.get? key with
        | some v => .ok (.value v)
        | none => .error (keyMissing key), (m, t)) := by
  have hmap : (get key).onFile m t = (((KeyValue.get key).outcome (m, t)).1.map .value,
      ((KeyValue.get key).outcome (m, t)).2) :=
    Action.outcome_map _ _ _
  have hget : (KeyValue.get key).outcome (m, t) =
      (match m.table.get? key with
        | some v => .ok v
        | none => .error (keyMissing key), (m, t)) := rfl
  rw [hmap, hget]
  cases m.table.get? key <;> rfl

theorem onFile_eq (h : Shelf dir spaces l t) (hname : Admitted dir name)
    (hspace : spaces.get? name = some table) {c : StoreCall}
    (hc : Archive.readOnlyPoint name c = none) :
    ∃ t', c.onFile ⟨FileProvider.filePath dir name, table⟩ t =
        ((c.onTable table).1, (⟨FileProvider.filePath dir name, (c.onTable table).2⟩, t')) ∧
      Shelf dir (spaces.insert name (c.onTable table).2) l t' ∧ t.Extends t' := by
  have hsame : Shelf dir (spaces.insert name table) l t := by
    rw [Table.insert_of_get? hspace]
    exact h
  cases c with
  | has key => exact ⟨t, rfl, hsame, .refl t⟩
  | get key =>
      have hstate : ((get key).onTable table).2 = table := by
        unfold onTable action
        rw [Action.outcome_map]
        rfl
      refine ⟨t, ?_, by rw [hstate]; exact hsame, .refl t⟩
      unfold onFile onTable action
      rw [Action.outcome_map, Action.outcome_map]
      rfl
  | set key value =>
      have hpoint : name ≠ "." := by
        rintro rfl
        cases hc
      obtain ⟨t', hsave, hshelf, hextends⟩ := h.save hname hpoint (table.insert key value)
      refine ⟨t', ?_, hshelf, hextends⟩
      rw [onFile_set]
      dsimp only
      rw [hsave]
      rfl

/-- A call that is refused is one to write the namespace `.`, and it changes nothing. -/
theorem onFile_refused (h : Shelf dir spaces l t) (hname : Admitted dir name) {c : StoreCall}
    {e : ActionError} (hc : Archive.readOnlyPoint name c = some e) (table : Contents) :
    c.onFile ⟨FileProvider.filePath dir name, table⟩ t =
      (.error e, (⟨FileProvider.filePath dir name, table⟩, t)) := by
  unfold Archive.readOnlyPoint at hc
  split at hc
  · rename_i key value
    obtain rfl := Option.some.inj hc
    rw [onFile_set]
    dsimp only
    rw [hname.outcome_save_point h.folder]
  · cases hc

end StoreCall

section
variable {p : FileProvider} {m : MapFile String Bytes} {c : StoreCall}
  {refusal? : String → StoreCall → Option ActionError}

theorem FileProvider.step_open {s' : FileProvider × Tree}
    (h : (FileProvider.openNamespace name).outcome s = (.ok m, s')) :
    FileProvider.step (.openNamespace name) s = (some (.ok .done), s') := by
  unfold FileProvider.step
  simp only [h]
  rfl

theorem FileProvider.step_call (h : p.opened.get? name = some m) :
    FileProvider.step (.call name c) (p, t) = (some (c.onFile m t).1,
      ({ p with opened := p.opened.insert name (c.onFile m t).2.1 }, (c.onFile m t).2.2)) := by
  unfold FileProvider.step FileProvider.within
  simp only [h, Option.map_some]
  rfl

theorem FileProvider.step_free (c : StoreCall) (h : p.opened.get? name = none) :
    FileProvider.step (.call name c) (p, t) = (none, (p, t)) := by
  unfold FileProvider.step FileProvider.within
  simp only [h, Option.map_none]

theorem Archive.step_call (hheld : name ∈ a.held) (hc : refusal? name c = none)
    (h : a.spaces.get? name = some table) :
    Archive.step refusal? (.call name c) a = (some (c.onTable table).1,
      { a with spaces := a.spaces.insert name (c.onTable table).2 }) := by
  unfold Archive.step MemoryProvider.within
  simp only [if_pos hheld, hc, h, Option.map_some]
  rfl

theorem Archive.step_refused {e : ActionError} (hheld : name ∈ a.held)
    (hc : refusal? name c = some e) :
    Archive.step refusal? (.call name c) a = (some (.error e), a) := by
  unfold Archive.step
  simp only [if_pos hheld, hc]

theorem Archive.step_free (hheld : name ∉ a.held) :
    Archive.step refusal? (.call name c) a = (none, a) := by
  unfold Archive.step
  simp only [if_neg hheld]

end

/-! ### Mirrored steps -/

/-- A provider and its disk mirror an archive: the handles have the tables of the namespaces that
are held, and the files have the tables of all namespaces. Until the first namespace is opened the
directory may not be there yet. -/
structure Mirrors (dir : String) (l : Location) (a : Archive) (s : FileProvider × Tree) :
    Prop where
  dir_eq : s.1.dir = dir
  held : ∀ name ∈ a.held, ∃ table, Admitted dir name ∧ a.spaces.get? name = some table ∧
    s.1.opened.get? name = some ⟨FileProvider.filePath dir name, table⟩
  free : ∀ name, name ∉ a.held → s.1.opened.get? name = none
  shelf : ∃ t, Prepared dir s.2 t ∧ Shelf dir a.spaces l t ∧ (a.held ≠ [] → t = s.2)

theorem get?_openNamespace (spaces : MemoryProvider) (name name' : String) :
    (spaces.openNamespace name).get? name' =
      if name = name' then some ((spaces.get? name).getD ∅) else spaces.get? name' := by
  unfold MemoryProvider.openNamespace Table.contains
  by_cases hname : name = name'
  · subst hname
    rw [if_pos rfl]
    cases hspace : spaces.get? name with
    | some table => simp [hspace]
    | none => simp [Table.get?_insert]
  · rw [if_neg hname]
    cases hspace : spaces.get? name with
    | some table => simp
    | none => simp [Table.get?_insert, hname]

namespace Mirrors

variable {p : FileProvider}

theorem openAgain (h : Mirrors dir l a (p, t)) (hheld : name ∈ a.held) :
    ∃ m, (FileProvider.openNamespace name).outcome (p, t) = (.ok m, (p, t)) ∧
      Mirrors dir l ⟨a.spaces.openNamespace name, name :: a.held⟩ (p, t) := by
  obtain ⟨table, hname, hspace, hopened⟩ := h.held name hheld
  have hspaces : a.spaces.openNamespace name = a.spaces := by
    unfold MemoryProvider.openNamespace Table.contains
    rw [hspace]
    rfl
  obtain ⟨t', hprepared, hshelf, hsame⟩ := h.shelf
  refine ⟨⟨FileProvider.filePath dir name, table⟩, ?_, h.dir_eq, fun name' hheld' => ?_,
    fun name' hfree => ?_, t', hprepared, ?_, fun _ => hsame (List.ne_nil_of_mem hheld)⟩
  · unfold FileProvider.openNamespace
    rw [Action.outcome_ofFunction]
    change p.opened.get? name = _ at hopened
    simp only [hname.accepted, Bool.not_true, Bool.false_eq_true, if_false, hopened]
  · rw [hspaces]
    obtain rfl | hheld' := List.mem_cons.mp hheld'
    · exact h.held _ hheld
    · exact h.held name' hheld'
  · exact h.free name' fun hmem => hfree (List.mem_cons_of_mem _ hmem)
  · rw [hspaces]
    exact hshelf

theorem openNew (h : Mirrors dir l a (p, t)) (hname : Admitted dir name)
    (hfree : name ∉ a.held) :
    ∃ m s', (FileProvider.openNamespace name).outcome (p, t) = (.ok m, s') ∧
      Mirrors dir l ⟨a.spaces.openNamespace name, name :: a.held⟩ s' := by
  obtain ⟨t₁, hprepared, hshelf, -⟩ := h.shelf
  obtain ⟨t', hload, hshelf', hextends⟩ := hshelf.load hprepared hname.openable
  have hdir : p.dir = dir := h.dir_eq
  have hnone : p.opened.get? name = none := h.free name hfree
  let m : MapFile String Bytes := ⟨FileProvider.filePath dir name, (a.spaces.get? name).getD ∅⟩
  refine ⟨m, (⟨p.dir, p.opened.insert name m⟩, t'), ?_, hdir, fun name' hheld => ?_,
    fun name' hfree' => ?_, t', hprepared.again hextends, hshelf', fun _ => rfl⟩
  · unfold FileProvider.openNamespace
    rw [Action.outcome_ofFunction]
    simp only [hname.accepted, Bool.not_true, Bool.false_eq_true, if_false, hnone, hdir, hload]
    rfl
  · dsimp only
    rw [get?_openNamespace, Table.get?_insert]
    by_cases hsame : name = name'
    · subst hsame
      rw [if_pos rfl, if_pos rfl]
      exact ⟨_, hname, rfl, rfl⟩
    · rw [if_neg hsame, if_neg hsame]
      exact h.held name' ((List.mem_cons.mp hheld).resolve_left (Ne.symm hsame))
  · rw [List.mem_cons, not_or] at hfree'
    dsimp only
    rw [Table.get?_insert, if_neg (Ne.symm hfree'.1)]
    exact h.free name' hfree'.2

theorem put (h : Mirrors dir l a (p, t)) (hheld : name ∈ a.held) {table : Contents} {t' : Tree}
    (hshelf : Shelf dir (a.spaces.insert name table) l t') (hextends : t.Extends t') :
    Mirrors dir l { a with spaces := a.spaces.insert name table }
      ({ p with opened := p.opened.insert name ⟨FileProvider.filePath dir name, table⟩ }, t') := by
  obtain ⟨t₁, hprepared, -, hsame⟩ := h.shelf
  obtain rfl : t₁ = t := hsame (List.ne_nil_of_mem hheld)
  refine ⟨h.dir_eq, fun name' hheld' => ?_, fun name' hfree => ?_, t', hprepared.again hextends,
    hshelf, fun _ => rfl⟩
  · dsimp only
    rw [Table.get?_insert, Table.get?_insert]
    obtain ⟨table', hname, hspace, hopened⟩ := h.held name' hheld'
    by_cases hsame : name = name'
    · subst hsame
      rw [if_pos rfl, if_pos rfl]
      exact ⟨table, hname, rfl, rfl⟩
    · rw [if_neg hsame, if_neg hsame]
      exact ⟨table', hname, hspace, hopened⟩
  · have hne : ¬ name = name' := by
      rintro rfl
      exact hfree hheld
    dsimp only
    rw [Table.get?_insert, if_neg hne]
    exact h.free name' hfree

/-- A call is answered as in memory, unless it is refused. -/
theorem call (h : Mirrors dir l a (p, t)) (name : String) (c : StoreCall) :
    (FileProvider.step (.call name c) (p, t)).1 =
        (Archive.step Archive.readOnlyPoint (.call name c) a).1 ∧
      Mirrors dir l (Archive.step Archive.readOnlyPoint (.call name c) a).2
        (FileProvider.step (.call name c) (p, t)).2 := by
  by_cases hheld : name ∈ a.held
  · obtain ⟨table, hname, hspace, hopened⟩ := h.held name hheld
    obtain ⟨t₁, -, hshelf, hsame⟩ := h.shelf
    obtain rfl : t₁ = t := hsame (List.ne_nil_of_mem hheld)
    rw [FileProvider.step_call hopened]
    cases hrefusal : Archive.readOnlyPoint name c with
    | some e =>
        rw [Archive.step_refused hheld hrefusal, StoreCall.onFile_refused hshelf hname hrefusal]
        have hsame : a.spaces.insert name table = a.spaces := Table.insert_of_get? hspace
        have hagain := h.put hheld (by rw [hsame]; exact hshelf) (.refl t₁)
        rw [hsame] at hagain
        exact ⟨rfl, hagain⟩
    | none =>
        obtain ⟨t', hcall, hshelf', hextends⟩ := StoreCall.onFile_eq hshelf hname hspace hrefusal
        rw [Archive.step_call hheld hrefusal hspace, hcall]
        exact ⟨rfl, h.put hheld hshelf' hextends⟩
  · rw [FileProvider.step_free c (h.free name hheld), Archive.step_free hheld]
    exact ⟨rfl, h⟩

theorem restart (h : Mirrors dir l a (p, t)) :
    Mirrors dir l { a with held := [] } (.ofDir p.dir, t) := by
  obtain ⟨t', hprepared, hshelf, -⟩ := h.shelf
  refine ⟨h.dir_eq, fun name hheld => absurd hheld List.not_mem_nil, fun _ _ => rfl, t', hprepared,
    hshelf, fun hne => absurd rfl hne⟩

/-- Every step of a provider is a step of the archive that it mirrors, with the same answer. -/
theorem step (h : Mirrors dir l a s) {x : ArchiveStep}
    (hx : ∀ name, x = .openNamespace name → Admitted dir name) :
    (FileProvider.step x s).1 = (Archive.step Archive.readOnlyPoint x a).1 ∧
      Mirrors dir l (Archive.step Archive.readOnlyPoint x a).2 (FileProvider.step x s).2 := by
  obtain ⟨p, t⟩ := s
  cases x with
  | openNamespace name =>
      by_cases hheld : name ∈ a.held
      · obtain ⟨m, hopen, hnext⟩ := h.openAgain hheld
        rw [FileProvider.step_open hopen]
        exact ⟨rfl, hnext⟩
      · obtain ⟨m, s', hopen, hnext⟩ := h.openNew (hx name rfl) hheld
        rw [FileProvider.step_open hopen]
        exact ⟨rfl, hnext⟩
  | call name c => exact h.call name c
  | restart => exact ⟨rfl, h.restart⟩

end Mirrors

/-! ### Whole runs -/

/-- The directory can be made, and nothing is in it then. -/
def Vacant (dir : String) (t : Tree) : Prop :=
  ∃ t', Prepared dir t t' ∧ ∀ l, t'.folder? dir = some l → ∀ name, t'.node? (l ++ [name]) = none

/-- A new provider on a vacant directory mirrors the empty archive. -/
theorem Vacant.mirrors (h : Vacant dir t) :
    ∃ l, Mirrors dir l .empty (.ofDir dir, t) := by
  obtain ⟨t', hprepared, hnone⟩ := h
  obtain ⟨l, hl⟩ := hprepared.folder?
  have hshelf : Shelf dir ∅ l t' := by
    refine ⟨hl, fun x => ?_, fun name _ => hnone l hl _, fun name table hspace => by cases hspace⟩
    rw [hnone l hl]
    simp
  exact ⟨l, rfl, fun name hheld => absurd hheld List.not_mem_nil, fun _ _ => rfl, t', hprepared,
    hshelf, fun hne => absurd rfl hne⟩

/-- The answers of a provider on a directory. -/
def FileProvider.answers (dir : String) (t : Tree) (steps : List ArchiveStep) :
    List ArchiveAnswer :=
  (inTurn FileProvider.step steps (.ofDir dir, t)).1

/-- The answers of an archive in memory. -/
def Archive.answers (refusal? : String → StoreCall → Option ActionError)
    (steps : List ArchiveStep) : List ArchiveAnswer :=
  (inTurn (Archive.step refusal?) steps .empty).1

/-- A provider of files is a faithful archive of namespaces, but for one: on a directory that is
vacant at first, every sequence of steps is answered as by an archive in memory in which the
namespace `.` cannot be written; so it is answered as by one that does all that it is asked for if
no step writes that namespace. -/
theorem answered_as_archive {steps : List ArchiveStep} (hvacant : Vacant dir t)
    (hnames : ∀ name, .openNamespace name ∈ steps → Admitted dir name) :
    FileProvider.answers dir t steps = Archive.answers Archive.readOnlyPoint steps ∧
      ((∀ key value, .call "." (.set key value) ∉ steps) →
        FileProvider.answers dir t steps = Archive.answers Archive.faithful steps) := by
  obtain ⟨l, hmirrors⟩ := hvacant.mirrors
  have hstep : ∀ x ∈ steps, ∀ (s : FileProvider × Tree) (a : Archive), Mirrors dir l a s →
      (FileProvider.step x s).1 = (Archive.step Archive.readOnlyPoint x a).1 ∧
        Mirrors dir l (Archive.step Archive.readOnlyPoint x a).2 (FileProvider.step x s).2 := by
    intro x hx s a h
    refine h.step fun name hname => hnames name ?_
    rw [← hname]
    exact hx
  have hrun := inTurn_eq (R := fun s a => Mirrors dir l a s) hstep hmirrors
  refine ⟨hrun.1, fun hwrites => hrun.1.trans ?_⟩
  have hsame : ∀ x ∈ steps, ∀ a : Archive,
      Archive.step Archive.readOnlyPoint x a = Archive.step Archive.faithful x a := by
    intro x hx a
    cases x with
    | call name c =>
        have hrefusal : Archive.readOnlyPoint name c = Archive.faithful name c := by
          unfold Archive.readOnlyPoint Archive.faithful
          split
          · rename_i key value
            exact absurd hx (hwrites key value)
          · rfl
        unfold Archive.step
        dsimp only
        rw [hrefusal]
    | _ => rfl
  refine (inTurn_eq (R := Eq) (fun x hx a a' h => ?_) rfl).1
  subst h
  rw [hsame x hx a]
  exact ⟨rfl, rfl⟩

theorem vacant_data : Vacant "data" Tree.empty := by
  have hmade : ((Disk.makeDirs (tidy "data") : Attempt Tree Unit).run Tree.empty).1.toOption =
      some () := by decide +kernel
  have htree : ((Disk.makeDirs (tidy "data") : Attempt Tree Unit).run Tree.empty).2 =
      ⟨Table.ofList [(["work"], .directory), (["work", "data"], .directory)], ["work"]⟩ := by
    decide +kernel
  cases hrun : (Disk.makeDirs (tidy "data") : Attempt Tree Unit).run Tree.empty with
  | mk r t =>
      rw [hrun] at hmade htree
      cases r with
      | error e => cases hmade
      | ok u =>
          dsimp only at htree
          subst htree
          refine ⟨_, hrun, fun l hl name => ?_⟩
          have hplace : Tree.folder? ⟨Table.ofList [(["work"], .directory),
              (["work", "data"], .directory)], ["work"]⟩ "data" = some ["work", "data"] := by
            decide +kernel
          obtain rfl : ["work", "data"] = l := Option.some.inj (hplace.symm.trans hl)
          simp [Tree.node?, Table.ofList, Table.get?, Table.insert, Table.put, Table.empty,
            Table.find?]

theorem answered_as_archive_reopened :
    let steps : List ArchiveStep := [.openNamespace "a", .openNamespace ".", .call "a" (.set "k" [1]),
      .call "." (.set "k" [2]), .restart, .call "a" (.get "k"), .openNamespace "a",
      .call "a" (.get "k"), .call "a" (.get "l")]
    Vacant "data" Tree.empty ∧ (∀ name, .openNamespace name ∈ steps → Admitted "data" name) ∧
      FileProvider.answers "data" Tree.empty steps =
        Archive.answers Archive.readOnlyPoint steps := by
  intro steps
  have hnames : ∀ name, .openNamespace name ∈ steps → Admitted "data" name := by
    intro name hname
    have hcases : name = "a" ∨ name = "." ∨ name = "a" := by
      simpa [steps] using hname
    obtain rfl | rfl | rfl := hcases
    all_goals exact ⟨by decide, by decide, by decide, by decide⟩
  exact ⟨vacant_data, hnames, (answered_as_archive vacant_data hnames).1⟩

/-- A namespace that is accepted and opened, but cannot be written: a provider of files is not an
archive that does all that it is asked for. -/
theorem answers_differ_at_point :
    ¬ ∀ (dir : String) (t : Tree) (steps : List ArchiveStep), Vacant dir t →
      (∀ name, .openNamespace name ∈ steps → Admitted dir name) →
      FileProvider.answers dir t steps = Archive.answers Archive.faithful steps := by
  intro hall
  let steps : List ArchiveStep := [.openNamespace ".", .call "." (.set "k" [118])]
  have hnames : ∀ name, .openNamespace name ∈ steps → Admitted "data" name := by
    intro name hname
    obtain rfl : name = "." := by simpa [steps] using hname
    exact ⟨by decide, by decide, by decide, by decide⟩
  have hsame := congrArg (List.map (Option.map Except.toOption))
    (hall "data" Tree.empty steps vacant_data hnames)
  revert hsame
  decide +kernel

end TodoPromo.Files
