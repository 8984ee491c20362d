import TodoPromo.Proofs.Files.Archive
import TodoPromo.Proofs.Files.FileNames
import TodoPromo.Proofs.Files.InStep
import TodoPromo.Proofs.Files.TwoHandles

/-! # Namespaces that open and cannot be written

A namespace is opened by its file and written by way of its temporary file, whose name is four bytes
longer. So there are names under which a namespace opens and can never be written: those for which only
the temporary file has too long a name, and the name `.`, for which it would be a directory
(`obstacle?`). Under every other name that opens, each value that is set is found again after a restart
(`kept_unless_obstacle`); and in a directory of its own every name opens that is short enough for the file
(`opens_vacant`). In a session on any tree the handles stay in step with their files
(`Serves.step`), so that all this holds at every moment of it. -/

namespace TodoPromo.Files

variable {t t' : Tree} {dir name : String} {l : Location}

/-! ### The other files of a directory -/

theorem location_ne {t₁ : Tree} {x y : String} {s : Spot} (hx : IsName x) (hne : x ≠ y)
    (hl : t.folder? dir = some l) (hextends : t.Extends t₁) (hs : t₁.spot (leadOf dir ++ x) = .ok s)
    (hnode : s.node ≠ some .directory) : s.location ≠ l ++ [y] := by
  obtain ⟨l', hl', -, rfl⟩ := Tree.folder?_of_spot (isLead_leadOf dir) hx hs hnode
  rw [Tree.folder?_leadOf, Tree.folder?_of_extends hextends hl] at hl'
  obtain rfl : l = l' := Option.some.inj hl'
  exact place_ne hne

theorem MapFile.node?_save {path : String} {contents : Bytes} {place : Location}
    {r : Except ActionError Unit} (h : MapFile.Saved path contents t r t')
    (htemporary : ∀ t₁, t.Extends t₁ → ∀ s, t₁.spot (temporaryPath path) = .ok s →
      s.node ≠ some .directory → s.location ≠ place)
    (hfile : ∀ t₁, t.Extends t₁ → ∀ s, t₁.spot path = .ok s → s.node ≠ some .directory →
      s.location ≠ place) :
    t.Extends t' ∧ t'.node? place = t.node? place := by
  cases h with
  | unwritten e => exact ⟨.refl t, rfl⟩
  | unmoved e hwrite => exact ⟨Tree.extends_write hwrite, Tree.node?_write hwrite (htemporary t (.refl t))⟩
  | moved hwrite hrename =>
      have hextends := Tree.extends_write hwrite
      have hwritten := Tree.node?_write hwrite (htemporary t (.refl t))
      have hextends' := (Tree.rename_spec hrename (Tree.read_write hwrite)).1
      have hrenamed := Tree.node?_rename hrename (htemporary _ hextends) (hfile _ hextends)
      exact ⟨hextends.trans hextends', hrenamed.trans hwritten⟩

theorem read_of_save {name' : String} {c : Bytes} {table : Contents} {r : Except ActionError Unit}
    (hname : isNamespace name = true) (hname' : isNamespace name' = true) (hne : name ≠ name')
    (hread : t.read (FileProvider.filePath dir name') = .ok c)
    (hsave : (MapFile.save (FileProvider.filePath dir name) table).outcome t = (r, t')) :
    t.Extends t' ∧ t'.read (FileProvider.filePath dir name') = .ok c := by
  have hfile : IsName (name ++ ".json") := isName_append hname (by decide)
  have hfile' : IsName (name' ++ ".json") := isName_append hname' (by decide)
  obtain ⟨htemporary, -⟩ := isName_temporaryFile hname
  obtain ⟨d, hd, hnode, -⟩ := Tree.spot_of_read hread
  have hd' := hd
  rw [FileProvider.filePath, join_eq] at hd'
  obtain ⟨l, hl, -, rfl⟩ := Tree.folder?_of_spot (isLead_leadOf dir) hfile' hd' (by simp [hnode])
  rw [Tree.folder?_leadOf] at hl
  obtain ⟨hextends, hsame⟩ : t.Extends t' ∧
      t'.node? (l ++ [name' ++ ".json"]) = t.node? (l ++ [name' ++ ".json"]) := by
    refine MapFile.node?_save (MapFile.saved_of_save hsave) (fun t₁ ht₁ s hs hfree => ?_)
      fun t₁ ht₁ s hs hfree => ?_
    · rw [temporaryPath_eq_join dir hname, join_eq] at hs
      exact location_ne htemporary (Ne.symm (file_ne_temporaryFile name' name)) hl ht₁ hs hfree
    · rw [FileProvider.filePath, join_eq] at hs
      exact location_ne hfile (fun h => hne (file_inj h)) hl ht₁ hs hfree
  exact ⟨hextends, Tree.read_of_extends hextends hd hread hsame⟩

/-! ### Sessions -/

namespace MapFile

variable {κ α : Type} [DecidableEq κ] [Json.CodedKey κ] [Json.Coded α] {m : MapFile κ α} {path : String}

theorem InStep.grows (h : InStep m t) (hgrows : t.Grows t') : InStep m t' := by
  obtain ⟨c, hread, hdecode⟩ := h.stored
  exact ⟨h.housed.extends hgrows.extends, c, hgrows.read hread, hdecode⟩

theorem load_grows [Json.ReadsBack (Table κ α)] {r : Except ActionError (MapFile κ α)}
    (h : (load path : Action Tree (MapFile κ α)).outcome t = (r, t')) : t.Grows t' := by
  cases r with
  | ok m => exact (load_spec h).2.1
  | error e =>
      cases hparent : (makeParent path : Action Tree Unit).outcome t with
      | mk made t₁ =>
          have hgrows := (makeParent_spec hparent).1.grows
          cases made with
          | error e' =>
              unfold load at h
              rw [Action.outcome_bind_error hparent] at h
              obtain ⟨-, rfl⟩ := Prod.mk.inj h
              exact hgrows
          | ok u =>
              rw [outcome_load hparent] at h
              split at h
              · obtain ⟨-, rfl⟩ := Prod.mk.inj h
                exact hgrows
              · split at h
                · cases (Prod.mk.inj h).1
                · obtain ⟨-, rfl⟩ := Prod.mk.inj h
                  exact hgrows
              · obtain ⟨-, rfl⟩ := Prod.mk.inj h
                exact hgrows

theorem temporary_of_save {table : Table κ α} {e : ActionError}
    (h : (save path table : Action Tree Unit).outcome t = (.error e, t')) :
    t' = t ∨ ∃ c, t.write (temporaryPath path) c = .ok t' := by
  cases saved_of_save h with
  | unwritten => exact .inl rfl
  | unmoved _ hwrite => exact .inr ⟨_, hwrite⟩

end MapFile

/-- A handle of a provider on this directory: it is in step with the file of its namespace. -/
structure Handle (dir name : String) (m : MapFile String Bytes) (t : Tree) : Prop where
  accepted : isNamespace name = true
  path : m.path = FileProvider.filePath dir name
  inStep : MapFile.InStep m t

/-- All handles of a provider are in step with their files. -/
structure Serves (dir : String) (s : FileProvider × Tree) : Prop where
  dir_eq : s.1.dir = dir
  handle : ∀ name m, s.1.opened.get? name = some m → Handle dir name m s.2

namespace Serves

variable {p : FileProvider} {m : MapFile String Bytes} {s : FileProvider × Tree}

theorem put (h : Serves dir (p, t)) (hhandle : Handle dir name m t')
    (hothers : ∀ name' m', name ≠ name' → Handle dir name' m' t → Handle dir name' m' t') :
    Serves dir ({ p with opened := p.opened.insert name m }, t') := by
  refine ⟨h.dir_eq, fun name' m' hopened => ?_⟩
  dsimp only at hopened
  rw [Table.get?_insert] at hopened
  by_cases hname : name = name'
  · rw [if_pos hname] at hopened
    obtain rfl := Option.some.inj hopened
    exact hname ▸ hhandle
  · rw [if_neg hname] at hopened
    exact hothers name' m' hname (h.handle name' m' hopened)

theorem openNamespace (h : Serves dir s) (name : String) :
    Serves dir ((FileProvider.openNamespace name).outcome s).2 := by
  obtain ⟨p, t⟩ := s
  have hdir : p.dir = dir := h.dir_eq
  unfold FileProvider.openNamespace
  rw [Action.outcome_ofFunction]
  cases hname : isNamespace name with
  | false => exact h
  | true =>
      cases hopened : p.opened.get? name with
      | some m =>
          simp only [hopened, Bool.not_true, Bool.false_eq_true, if_false]
          exact h
      | none =>
          simp only [hopened, hdir, Bool.not_true, Bool.false_eq_true, if_false]
          cases hload : (MapFile.load (FileProvider.filePath dir name) :
              Action Tree (MapFile String Bytes)).outcome t with
          | mk r t' =>
              have hgrows := MapFile.load_grows hload
              have hothers : ∀ name' m', Handle dir name' m' t → Handle dir name' m' t' :=
                fun name' m' h' => ⟨h'.accepted, h'.path, h'.inStep.grows hgrows⟩
              cases r with
              | error e => exact ⟨hdir, fun name' m' h' => hothers name' m' (h.handle name' m' h')⟩
              | ok m =>
                  obtain ⟨hpath, -, hstep, -⟩ := MapFile.load_spec hload
                  have hput := h.put ⟨hname, hpath, hstep⟩ fun name' m' _ => hothers name' m'
                  rw [← hdir] at hput ⊢
                  exact hput

/-- A call on one namespace leaves all handles in step: its own by what a call does, and the others
because nothing of theirs is written. -/
theorem call (h : Serves dir (p, t)) (hopened : p.opened.get? name = some m) (c : StoreCall) :
    Serves dir ({ p with opened := p.opened.insert name (c.onFile m t).2.1 }, (c.onFile m t).2.2) := by
  have hhandle := h.handle name m hopened
  have hkept : Serves dir ({ p with opened := p.opened.insert name m }, t) :=
    h.put hhandle fun _ _ _ h' => h'
  cases c with
  | has key => exact hkept
  | get key =>
      rw [StoreCall.onFile_get]
      exact hkept
  | set key value =>
      rw [StoreCall.onFile_set]
      cases hsave : (MapFile.save m.path (m.table.insert key value)).outcome t with
      | mk r t' =>
          have hothers : ∀ name' m', name ≠ name' → Handle dir name' m' t → Handle dir name' m' t' := by
            intro name' m' hne h'
            obtain ⟨c, hread, hdecode⟩ := h'.inStep.stored
            rw [h'.path] at hread
            rw [hhandle.path] at hsave
            obtain ⟨hextends, hread'⟩ := read_of_save hhandle.accepted h'.accepted hne hread hsave
            rw [← h'.path] at hread'
            exact ⟨h'.accepted, h'.path, h'.inStep.housed.extends hextends, c, hread', hdecode⟩
          cases r with
          | ok u =>
              obtain ⟨hextends, hread⟩ := MapFile.save_spec hsave
              exact h.put ⟨hhandle.accepted, hhandle.path, hhandle.inStep.housed.extends hextends, _,
                hread, MapFile.decodeTable_encode m.path _⟩ hothers
          | error e =>
              have htemporary := MapFile.temporary_of_save hsave
              have hstep := (hhandle.inStep.of_temporary htemporary).1
              exact h.put ⟨hhandle.accepted, hhandle.path, hstep⟩ hothers

theorem step (h : Serves dir s) (x : ArchiveStep) : Serves dir (FileProvider.step x s).2 := by
  obtain ⟨p, t⟩ := s
  cases x with
  | openNamespace name => exact h.openNamespace name
  | restart => exact ⟨h.dir_eq, fun _ _ hopened => nomatch hopened⟩
  | call name c =>
      cases hopened : p.opened.get? name with
      | none =>
          rw [FileProvider.step_free c hopened]
          exact h
      | some m =>
          rw [FileProvider.step_call hopened]
          exact h.call hopened c

end Serves

/-! ### Writing -/

/-- Why nothing can be written under a name, if it has such a name. -/
def obstacle? (name : String) : Option IoError :=
  if name = "." then some .isDirectory
  else if Tree.nameLimit < (name ++ ".json.tmp").utf8ByteSize then some .nameTooLong
  else none

/-- Apart from its name nothing is in the way of the temporary file of a namespace. -/
structure Clear (dir name : String) (t : Tree) : Prop where
  path_short : (join dir (name ++ ".json.tmp")).utf8ByteSize ≤ Tree.pathLimit
  no_directory : t.isDirectory (join dir (name ++ ".json.tmp")) = false

theorem Openable.no_nul (h : Openable dir name) :
    '\x00' ∉ (leadOf dir).toList ∧ '\x00' ∉ name.toList := by
  have hno := h.spellable.no_nul
  rw [FileProvider.filePath, join_eq] at hno
  simp only [String.toList_append, List.mem_append, not_or] at hno
  exact ⟨hno.1, hno.2.1⟩

theorem Openable.spellable_temporary (h : Openable dir name)
    (hpath : (join dir (name ++ ".json.tmp")).utf8ByteSize ≤ Tree.pathLimit) :
    Tree.Spellable (leadOf dir ++ (name ++ ".json.tmp")) := by
  obtain ⟨hdir, hname⟩ := h.no_nul
  rw [join_eq] at hpath
  refine ⟨?_, by simp, hpath⟩
  simp only [String.toList_append, List.mem_append, not_or]
  exact ⟨hdir, hname, by decide⟩

theorem Openable.admitted (h : Openable dir name) (hclear : Clear dir name t)
    (hshort : (name ++ ".json.tmp").utf8ByteSize ≤ Tree.nameLimit) : Admitted dir name := by
  obtain ⟨hdir, hname⟩ := h.no_nul
  refine ⟨h.accepted, ?_, hshort, hclear.path_short⟩
  unfold leadOf at hdir
  rw [String.toList_append, List.mem_append, not_or]
  refine ⟨fun hmem => hdir ?_, hname⟩
  split
  · exact hmem
  · rw [String.toList_append]
    exact List.mem_append_left _ hmem

namespace Handle

variable {m : MapFile String Bytes}

theorem file (h : Handle dir name m t) :
    Openable dir name ∧ ∃ l c, t.folder? dir = some l ∧
      t.node? (l ++ [name ++ ".json"]) = some (.file c) := by
  obtain ⟨c, hread, -⟩ := h.inStep.stored
  rw [h.path] at hread
  obtain ⟨d, hd, hnode, -⟩ := Tree.spot_of_read hread
  have hspellable := Tree.spellable_of_spot hd
  rw [FileProvider.filePath, join_eq] at hd
  obtain ⟨l, hl, hnameable, rfl⟩ := Tree.folder?_of_spot (isLead_leadOf dir)
    (isName_append h.accepted (by decide)) hd (by simp [hnode])
  rw [Tree.folder?_leadOf] at hl
  exact ⟨⟨h.accepted, Nat.le_of_not_lt hnameable.short, hspellable⟩, l, c, hl, hnode⟩

/-- Saving a table succeeds, unless there is an obstacle. -/
theorem save_cases (h : Handle dir name m t) (hclear : Clear dir name t) (table : Contents) :
    match obstacle? name with
    | none => ∃ t', (MapFile.save m.path table : Action Tree Unit).outcome t = (.ok (), t')
    | some e =>
      (MapFile.save m.path table : Action Tree Unit).outcome t = (.error (.storage e.message), t) := by
  obtain ⟨hopenable, l, c, hl, hfile⟩ := h.file
  rw [h.path]
  unfold obstacle?
  by_cases hpoint : name = "."
  · subst hpoint
    rw [if_pos rfl]
    exact (hopenable.admitted hclear (by decide)).outcome_save_point hl table
  rw [if_neg hpoint]
  have hspot := spot_extended h.accepted (by decide) (by decide)
    (hopenable.spellable_temporary hclear.path_short) hl
  by_cases hlong : Tree.nameLimit < (name ++ ".json.tmp").utf8ByteSize
  · rw [if_pos hlong] at hspot ⊢
    have hwrite : t.write (temporaryPath (FileProvider.filePath dir name)) (Json.encode table) =
        .error .nameTooLong := by
      rw [temporaryPath_filePath dir h.accepted, if_neg hpoint, Tree.write, hspot]
    rw [MapFile.outcome_save, hwrite]
  · rw [if_neg hlong] at hspot ⊢
    have htemporary : t.node? (l ++ [name ++ ".json.tmp"]) ≠ some .directory := by
      intro hdirectory
      rw [hdirectory, ← join_eq] at hspot
      have hthere := Tree.isDirectory_iff.mpr ⟨_, hspot, rfl⟩
      rw [hclear.no_directory] at hthere
      cases hthere
    have hadmitted := hopenable.admitted hclear (Nat.le_of_not_lt hlong)
    exact ⟨_, hadmitted.outcome_save hpoint hl htemporary (by simp [hfile]) table⟩

theorem set_cases (h : Handle dir name m t) (hclear : Clear dir name t) (key : String) (value : Bytes) :
    match obstacle? name with
    | none => ∃ m' t', (StoreCall.set key value).onFile m t = (.ok .done, (m', t')) ∧
        Handle dir name m' t' ∧ m'.table.get? key = some value
    | some e => (StoreCall.set key value).onFile m t = (.error (.storage e.message), (m, t)) := by
  have hsave := h.save_cases hclear (m.table.insert key value)
  rw [StoreCall.onFile_set]
  cases hobstacle : obstacle? name with
  | some e =>
      simp only [hobstacle] at hsave
      simp only [hsave]
  | none =>
      simp only [hobstacle] at hsave
      obtain ⟨t', hsave⟩ := hsave
      obtain ⟨hextends, hread⟩ := MapFile.save_spec hsave
      refine ⟨⟨m.path, m.table.insert key value⟩, t', by simp only [hsave], ⟨h.accepted, h.path, ?_⟩, ?_⟩
      · exact ⟨h.inStep.housed.extends hextends, _, hread, MapFile.decodeTable_encode m.path _⟩
      · exact (Table.get?_insert ..).trans (if_pos rfl)

/-- What a handle has is found after a restart. -/
theorem found_again (h : Handle dir name m t) {key : String} {value : Bytes}
    (hvalue : m.table.get? key = some value) {p : FileProvider} (hdir : p.dir = dir) :
    (inTurn FileProvider.step [.restart, .openNamespace name, .call name (.get key)] (p, t)).1 =
      [some (.ok .done), some (.ok .done), some (.ok (.value value))] := by
  have hrestart : FileProvider.step .restart (p, t) = (some (.ok .done), (.ofDir dir, t)) := by
    rw [← hdir]
    rfl
  have hopen := FileProvider.outcome_openNamespace h.accepted dir t
  have hreload := h.inStep.reload
  rw [h.path] at hreload
  rw [hreload] at hopen
  have hopened : (Table.insert ∅ name m : Table String (MapFile String Bytes)).get? name = some m :=
    (Table.get?_insert ..).trans (if_pos rfl)
  have hget : FileProvider.step (.call name (.get key)) (⟨dir, Table.insert ∅ name m⟩, t) = _ :=
    FileProvider.step_call hopened
  rw [StoreCall.onFile_get, hvalue] at hget
  rw [inTurn_cons hrestart, inTurn_cons (FileProvider.step_open hopen), inTurn_cons hget]
  rfl

end Handle

theorem opens_vacant (hvacant : Vacant dir t) (h : Openable dir name)
    (hpath : (join dir (name ++ ".json.tmp")).utf8ByteSize ≤ Tree.pathLimit) :
    ∃ m t', (FileProvider.openNamespace name).outcome (.ofDir dir, t) =
        (.ok m, (⟨dir, Table.insert ∅ name m⟩, t')) ∧ Handle dir name m t' ∧ Clear dir name t' := by
  obtain ⟨l, hmirrors⟩ := hvacant.mirrors
  obtain ⟨t₁, hprepared, hshelf, -⟩ := hmirrors.shelf
  obtain ⟨t', hload, hshelf', -⟩ := hshelf.load hprepared h
  have hopen := FileProvider.outcome_openNamespace h.accepted dir t
  rw [hload] at hopen
  obtain ⟨hpath', -, hstep, -⟩ := MapFile.load_spec hload
  refine ⟨_, t', hopen, ⟨h.accepted, hpath', hstep⟩, hpath, ?_⟩
  rw [Bool.eq_false_iff]
  intro hthere
  obtain ⟨d, hd, hnode⟩ := Tree.isDirectory_iff.mp hthere
  rw [join_eq, spot_extended h.accepted (by decide) (by decide) (h.spellable_temporary hpath)
    hshelf'.folder] at hd
  split at hd
  · cases hd
  · obtain rfl := Except.ok.inj hd
    exact hshelf'.no_directory _ hnode

theorem openable_data (h : isNamespace name = true) (hnul : '\x00' ∉ name.toList)
    (hshort : (name ++ ".json").utf8ByteSize ≤ Tree.nameLimit) : Openable "data" name := by
  have hpath : FileProvider.filePath "data" name = "data/" ++ (name ++ ".json") := by
    rw [FileProvider.filePath, join_eq]
    rfl
  refine ⟨h, hshort, ?_, by simp [hpath], ?_⟩
  · rw [hpath]
    simp only [String.toList_append, List.mem_append, not_or]
    exact ⟨by decide, hnul, by decide⟩
  · have hdata : "data/".utf8ByteSize + Tree.nameLimit ≤ Tree.pathLimit := by decide
    rw [hpath, String.utf8ByteSize_append]
    omega

/-- After any steps of a provider on any tree, a namespace that is open has a file whose name is short
enough; and a value that is set in it is found again after a restart, unless its name is an obstacle to
the temporary file. Then every set fails and changes nothing. -/
theorem kept_unless_obstacle (dir : String) (t : Tree) (steps : List ArchiveStep) (name : String) :
    let s := (inTurn FileProvider.step steps (.ofDir dir, t)).2
    s.1.opened.contains name = true → Clear dir name s.2 →
      (name ++ ".json").utf8ByteSize ≤ Tree.nameLimit ∧ ∀ key value,
        match obstacle? name with
        | none =>
          (inTurn FileProvider.step [.call name (.set key value), .restart, .openNamespace name,
            .call name (.get key)] s).1 =
              [some (.ok .done), some (.ok .done), some (.ok .done), some (.ok (.value value))]
        | some e =>
          FileProvider.step (.call name (.set key value)) s = (some (.error (.storage e.message)), s) := by
  intro s hopened hclear
  have hserves : Serves dir s := by
    refine inTurn_keeps (fun x s h => h.step x) steps ⟨rfl, fun _ _ h => ?_⟩
    cases h
  obtain ⟨p, t⟩ := s
  have hdir : p.dir = dir := hserves.dir_eq
  obtain ⟨m, hm⟩ : ∃ m, p.opened.get? name = some m := Option.isSome_iff_exists.mp hopened
  have hhandle : Handle dir name m t := hserves.handle name m hm
  refine ⟨hhandle.file.1.name_short, fun key value => ?_⟩
  have hstep := FileProvider.step_call (c := .set key value) (t := t) hm
  have hset := hhandle.set_cases hclear key value
  cases hobstacle : obstacle? name with
  | some e =>
      simp only [hobstacle] at hset
      rw [hset] at hstep
      dsimp only at hstep
      rw [Table.insert_of_get? hm] at hstep
      exact hstep
  | none =>
      simp only [hobstacle] at hset
      obtain ⟨m', t', hset, hhandle', hvalue⟩ := hset
      rw [hset] at hstep
      rw [inTurn_cons hstep]
      exact congrArg (_ :: ·) (hhandle'.found_again hvalue hdir)

theorem kept_unless_obstacle_longest :
    let name := String.ofList (List.replicate 123 'é')
    let s := (inTurn FileProvider.step [.openNamespace name] (.ofDir "data", Tree.empty)).2
    s.1.opened.contains name = true ∧ Clear "data" name s.2 ∧ obstacle? name = none ∧
      (inTurn FileProvider.step [.call name (.set "k" [2]), .restart, .openNamespace name,
        .call name (.get "k")] s).1 =
          [some (.ok .done), some (.ok .done), some (.ok .done), some (.ok (.value [2]))] := by
  intro name
  have haccepted : isNamespace name = true := by
    rw [isNamespace_iff, String.toList_ofList]
    decide +kernel
  have hnul : '\x00' ∉ name.toList := by
    rw [String.toList_ofList]
    decide +kernel
  have hopenable := openable_data haccepted hnul (by decide +kernel)
  obtain ⟨m, t, hopen, -, hclear⟩ := opens_vacant vacant_data hopenable (by decide +kernel)
  have hnone : obstacle? name = none := by decide +kernel
  clear_value name
  have hs : (inTurn FileProvider.step [.openNamespace name] (.ofDir "data", Tree.empty)).2 =
      (⟨"data", Table.insert ∅ name m⟩, t) := by
    rw [inTurn_cons (FileProvider.step_open hopen)]
    rfl
  have hopened : (Table.insert ∅ name m).contains name = true := by
    rw [Table.contains, Table.get?_insert, if_pos rfl]
    rfl
  have hkept := kept_unless_obstacle "data" Tree.empty [.openNamespace name] name
  rw [hs] at hkept ⊢
  have hagain := (hkept hopened hclear).2 "k" [2]
  rw [hnone] at hagain
  exact ⟨hopened, hclear, hnone, hagain⟩

/-- A valid setting under which a namespace opens and cannot be written, although nothing but its name is
in the way: a name of 250 letters. -/
theorem opened_not_writable :
    ¬ ∀ (c : StoreSettings) (t : Tree) (m : MapFile String Bytes) (s : FileProvider × Tree),
      c.validate = .ok () →
      (FileProvider.openNamespace c.nameSpace).outcome (.ofDir c.dataDir, t) = (.ok m, s) →
      Clear c.dataDir c.nameSpace s.2 → ∀ key value,
        (FileProvider.step (.call c.nameSpace (.set key value)) s).1 = some (.ok .done) := by
  intro hall
  let name := String.ofList (List.replicate 250 'n')
  have haccepted : isNamespace name = true := by
    rw [isNamespace_iff, String.toList_ofList]
    decide +kernel
  have hnul : '\x00' ∉ name.toList := by
    rw [String.toList_ofList]
    decide +kernel
  have hopenable := openable_data haccepted hnul (by decide +kernel)
  obtain ⟨m, t, hopen, hhandle, hclear⟩ := opens_vacant vacant_data hopenable (by decide +kernel)
  have hvalid : StoreSettings.validate ⟨.file, "data", name⟩ = .ok () := by
    unfold StoreSettings.validate Text.allBlank
    rw [String.toList_ofList]
    decide +kernel
  have hobstacle : obstacle? name = some .nameTooLong := by decide +kernel
  clear_value name
  have hdone := hall ⟨.file, "data", name⟩ Tree.empty m _ hvalid hopen hclear "k" [118]
  have hset := hhandle.set_cases hclear "k" [118]
  simp only [hobstacle] at hset
  rw [FileProvider.step_call ((Table.get?_insert ..).trans (if_pos rfl)), hset] at hdone
  cases hdone

end TodoPromo.Files
