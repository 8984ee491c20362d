import TodoPromo.Files.Tree

/-! # Trees that grow

Making directories takes nothing away (`Grows`, `AddsDirectories`), and making and replacing files
takes no directory away (`Extends`). Where a path leads depends on the directories alone
(`spot_of_extends`). So a path that leads somewhere leads to the same place ever after, and what was
written there is read back (`read_write`, `rename_spec`). -/

namespace TodoPromo.Files.Tree

variable {t t' t'' : Tree}

/-- Every directory of the first tree is one of the second, which works in the same place. -/
structure Extends (t t' : Tree) : Prop where
  workDir : t'.workDir = t.workDir
  directory : ∀ l, t.node? l = some .directory → t'.node? l = some .directory

theorem Extends.refl (t : Tree) : t.Extends t := ⟨rfl, fun _ h => h⟩

theorem Extends.trans (h : t.Extends t') (h' : t'.Extends t'') : t.Extends t'' :=
  ⟨h'.workDir.trans h.workDir, fun l hl => h'.directory l (h.directory l hl)⟩

/-- Whatever the first tree has, the second one has too. -/
structure Grows (t t' : Tree) : Prop where
  workDir : t'.workDir = t.workDir
  node : ∀ l n, t.node? l = some n → t'.node? l = some n

theorem Grows.refl (t : Tree) : t.Grows t := ⟨rfl, fun _ _ h => h⟩

theorem Grows.trans (h : t.Grows t') (h' : t'.Grows t'') : t.Grows t'' :=
  ⟨h'.workDir.trans h.workDir, fun l n hl => h'.node l n (h.node l n hl)⟩

theorem Grows.extends (h : t.Grows t') : t.Extends t' :=
  ⟨h.workDir, fun l hl => h.node l .directory hl⟩

/-- What a tree that has grown does not have was not there before. -/
theorem Grows.none (h : t.Grows t') {l : Location} (hl : t'.node? l = none) :
    t.node? l = none := by
  cases hbefore : t.node? l with
  | none => rfl
  | some n =>
      rw [h.node l n hbefore] at hl
      cases hl

/-- The second tree has some directories more than the first, and is the same tree otherwise. -/
structure AddsDirectories (t t' : Tree) : Prop where
  workDir : t'.workDir = t.workDir
  node : ∀ l, t'.node? l = t.node? l ∨ t.node? l = none ∧ t'.node? l = some .directory

theorem AddsDirectories.refl (t : Tree) : t.AddsDirectories t := ⟨rfl, fun _ => .inl rfl⟩

theorem AddsDirectories.grows (h : t.AddsDirectories t') : t.Grows t' := by
  refine ⟨h.workDir, fun l n hl => ?_⟩
  obtain hsame | ⟨hnone, -⟩ := h.node l
  · rw [hsame, hl]
  · rw [hnone] at hl
    cases hl

/-- A file in a tree with some directories more was there before. -/
theorem AddsDirectories.file (h : t.AddsDirectories t') {l : Location} {c : Bytes}
    (hl : t'.node? l = some (.file c)) : t.node? l = some (.file c) := by
  obtain hsame | ⟨-, hdirectory⟩ := h.node l
  · rw [← hsame, hl]
  · rw [hdirectory] at hl
    cases hl

theorem AddsDirectories.trans (h : t.AddsDirectories t') (h' : t'.AddsDirectories t'') :
    t.AddsDirectories t'' := by
  refine ⟨h'.workDir.trans h.workDir, fun l => ?_⟩
  obtain hsame | ⟨hnone, hdirectory⟩ := h.node l
  · rw [← hsame]
    exact h'.node l
  · exact .inr ⟨hnone, h'.grows.node l .directory hdirectory⟩

/-! ### Nodes -/

theorem node?_nil (t : Tree) : t.node? [] = some .directory := rfl

theorem node?_place (t : Tree) {l : Location} (h : l ≠ []) (n : Node) (l' : Location) :
    (t.place l n).node? l' = if l = l' then some n else t.node? l' := by
  unfold node? place
  by_cases hl' : l' = []
  · subst hl'
    rw [if_pos rfl, if_pos rfl, if_neg h]
  · rw [if_neg hl', if_neg hl']
    exact Table.get?_insert t.nodes l l' n

theorem node?_without_of_ne (t : Tree) {l l' : Location} (h : l ≠ l') :
    (t.without l).node? l' = t.node? l' := by
  unfold node? without
  by_cases hl' : l' = []
  · rw [if_pos hl', if_pos hl']
  · rw [if_neg hl', if_neg hl']
    exact (Table.get?_erase t.nodes l l').trans (if_neg h)

theorem ne_nil_of_node? {l : Location} (h : t.node? l ≠ some .directory) : l ≠ [] := by
  rintro rfl
  exact h (node?_nil t)

theorem grows_place {l : Location} (h : t.node? l = none) (n : Node) : t.Grows (t.place l n) := by
  have hfree : t.node? l ≠ some .directory := by simp [h]
  refine ⟨rfl, fun l' n' hl' => ?_⟩
  rw [node?_place t (ne_nil_of_node? hfree), if_neg]
  · exact hl'
  · rintro rfl
    rw [h] at hl'
    cases hl'

theorem extends_place {l : Location} (h : t.node? l ≠ some .directory) (n : Node) :
    t.Extends (t.place l n) := by
  refine ⟨rfl, fun l' hl' => ?_⟩
  rw [node?_place t (ne_nil_of_node? h), if_neg]
  · exact hl'
  · rintro rfl
    exact h hl'

theorem extends_without {l : Location} (h : t.node? l ≠ some .directory) :
    t.Extends (t.without l) := by
  refine ⟨rfl, fun l' hl' => ?_⟩
  rw [node?_without_of_ne]
  · exact hl'
  · rintro rfl
    exact h hl'

/-! ### Where paths lead -/

/-- A name that can be looked up in a directory. -/
structure Nameable (name : String) : Prop where
  ne_dot : name ≠ "."
  ne_dots : name ≠ ".."
  short : ¬ nameLimit < name.utf8ByteSize

theorem follow_last (t : Tree) {name : String} (h : Nameable name) (slash : Bool)
    (here : Location) :
    t.follow slash here [name] =
      .ok ⟨here ++ [name], t.node? (here ++ [name]), slash⟩ := by
  obtain ⟨h1, h2, h3⟩ := h
  rw [follow.eq_4 _ _ _ _ _ h1 h2, if_neg h3]

theorem follow_down {name next : String} (h : Nameable name) (slash : Bool) {here : Location}
    (rest : List String) (hnode : t.node? (here ++ [name]) = some .directory) :
    t.follow slash here (name :: next :: rest) =
      t.follow slash (here ++ [name]) (next :: rest) := by
  obtain ⟨h1, h2, h3⟩ := h
  rw [follow.eq_4 _ _ _ _ _ h1 h2, if_neg h3]
  simp only [hnode]

/-- The same place in two trees: what stands there is what each tree has there, unless the path
leads there by the directory that it is. -/
structure SameSpot (t t' : Tree) (s s' : Spot) : Prop where
  location : s'.location = s.location
  wantsDirectory : s'.wantsDirectory = s.wantsDirectory
  node : s.node = some .directory ∧ s'.node = some .directory ∨
    s.node = t.node? s.location ∧ s'.node = t'.node? s.location

theorem follow_of_extends (h : t.Extends t') {slash : Bool} {here : Location} {cs : List String}
    {s : Spot} (hs : t.follow slash here cs = .ok s) :
    ∃ s', t'.follow slash here cs = .ok s' ∧ t.SameSpot t' s s' := by
  fun_induction follow t slash here cs with
  | case1 here =>
      obtain rfl := Except.ok.inj hs
      exact ⟨_, rfl, rfl, rfl, .inl ⟨rfl, rfl⟩⟩
  | case2 here rest ih => exact ih hs
  | case3 here rest ih => exact ih hs
  | case4 here name rest hdot hdots hlong => cases hs
  | case5 here name hdot hdots hshort next =>
      obtain rfl := Except.ok.inj hs
      exact ⟨_, follow_last t' ⟨hdot, hdots, hshort⟩ slash here, rfl, rfl, .inr ⟨rfl, rfl⟩⟩
  | case6 => cases hs
  | case7 => cases hs
  | case8 here name hdot hdots hshort below next rest hnode ih =>
      rw [follow_down ⟨hdot, hdots, hshort⟩ slash rest (h.directory _ hnode)]
      exact ih hs

theorem spot_of_extends (h : t.Extends t') {path : String} {s : Spot}
    (hs : t.spot path = .ok s) : ∃ s', t'.spot path = .ok s' ∧ t.SameSpot t' s s' := by
  unfold spot at hs ⊢
  by_cases hnul : path.toList.contains '\x00' = true
  · rw [if_pos hnul] at hs
    cases hs
  by_cases hempty : path.isEmpty = true
  · rw [if_neg hnul, if_pos hempty] at hs
    cases hs
  by_cases hlong : pathLimit < path.utf8ByteSize
  · rw [if_neg hnul, if_neg hempty, if_pos hlong] at hs
    cases hs
  rw [if_neg hnul, if_neg hempty, if_neg hlong] at hs ⊢
  rw [h.workDir]
  exact follow_of_extends h hs

theorem SameSpot.refl_of_spot {path : String} {s : Spot} (hs : t.spot path = .ok s) :
    t.SameSpot t s s := by
  obtain ⟨s', hs', hsame⟩ := spot_of_extends (.refl t) hs
  obtain rfl : s = s' := Except.ok.inj (hs.symm.trans hs')
  exact hsame

/-- What a path leads to is a directory by the way it is named, or what the tree has there. -/
theorem node_of_spot {path : String} {s : Spot} (hs : t.spot path = .ok s) :
    s.node = some .directory ∨ s.node = t.node? s.location := by
  obtain ⟨h, -⟩ | ⟨h, -⟩ := (SameSpot.refl_of_spot hs).node
  · exact .inl h
  · exact .inr h

/-! ### Files -/

theorem read_of_spot {path : String} {s : Spot} {c : Bytes} (hs : t.spot path = .ok s)
    (hnode : s.node = some (.file c)) (hwants : s.wantsDirectory = false) :
    t.read path = .ok c := by
  unfold read stat
  simp [hs, hnode, hwants]

theorem spot_of_read {path : String} {c : Bytes} (h : t.read path = .ok c) :
    ∃ s, t.spot path = .ok s ∧ s.node = some (.file c) ∧ s.wantsDirectory = false := by
  unfold read stat at h
  cases hs : t.spot path with
  | error e =>
      rw [hs] at h
      cases h
  | ok s =>
      refine ⟨s, rfl, ?_⟩
      rw [hs] at h
      cases hnode : s.node with
      | none =>
          simp only [hnode] at h
          cases h
      | some n =>
          cases n with
          | directory =>
              simp only [hnode] at h
              cases h
          | file c' =>
              cases hwants : s.wantsDirectory with
              | true =>
                  simp only [hnode, hwants, if_true] at h
                  cases h
              | false =>
                  simp only [hnode, hwants, Bool.false_eq_true, if_false] at h
                  obtain rfl := Except.ok.inj h
                  exact ⟨rfl, rfl⟩

/-- A node that stands at the end of a path in a bigger tree, if no directory stood there. -/
theorem spot_grown (h : t.Extends t') {path : String} {s : Spot} (hs : t.spot path = .ok s)
    (hnode : s.node ≠ some .directory) :
    ∃ s', t'.spot path = .ok s' ∧ s'.node = t'.node? s.location ∧
      s'.wantsDirectory = s.wantsDirectory := by
  obtain ⟨s', hs', hsame⟩ := spot_of_extends h hs
  obtain ⟨hdirectory, -⟩ | ⟨-, hnode'⟩ := hsame.node
  · exact absurd hdirectory hnode
  · exact ⟨s', hs', hnode', hsame.wantsDirectory⟩

/-- A file is read as before where its own place has not changed. -/
theorem read_of_extends (h : t.Extends t') {path : String} {c : Bytes} {d : Spot}
    (hd : t.spot path = .ok d) (hread : t.read path = .ok c)
    (hsame : t'.node? d.location = t.node? d.location) : t'.read path = .ok c := by
  obtain ⟨d₁, hd₁, hfile, hwants⟩ := spot_of_read hread
  obtain rfl : d = d₁ := Except.ok.inj (hd.symm.trans hd₁)
  have hfree : d.node ≠ some .directory := by simp [hfile]
  have hnode : d.node = t.node? d.location := (node_of_spot hd).resolve_left hfree
  obtain ⟨d', hd', hnode', hwants'⟩ := spot_grown h hd hfree
  refine read_of_spot hd' ?_ (hwants'.trans hwants)
  rw [hnode', hsame, ← hnode, hfile]

/-- What was read is read in a tree that has more. -/
theorem Grows.read (h : t.Grows t') {path : String} {c : Bytes} (hread : t.read path = .ok c) :
    t'.read path = .ok c := by
  obtain ⟨d, hd, hfile, -⟩ := spot_of_read hread
  obtain hdirectory | hnode := node_of_spot hd
  · rw [hfile] at hdirectory
    cases hdirectory
  · have hbefore : t.node? d.location = some (.file c) := hnode.symm.trans hfile
    exact read_of_extends h.extends hd hread ((h.node _ _ hbefore).trans hbefore.symm)

theorem write_eq_ok {path : String} {c : Bytes} (h : t.write path c = .ok t') :
    ∃ s, t.spot path = .ok s ∧ s.node ≠ some .directory ∧ s.wantsDirectory = false ∧
      t.node? s.location ≠ some .directory ∧ t' = t.place s.location (.file c) := by
  unfold write at h
  cases hs : t.spot path with
  | error e =>
      rw [hs] at h
      cases h
  | ok s =>
      rw [hs] at h
      by_cases hblocked : (s.node = some .directory || s.wantsDirectory) = true
      · simp only [hblocked, if_true] at h
        cases h
      · simp only [hblocked] at h
        obtain rfl := Except.ok.inj h
        simp only [Bool.or_eq_true, decide_eq_true_eq, not_or, Bool.not_eq_true] at hblocked
        refine ⟨s, rfl, hblocked.1, hblocked.2, ?_, rfl⟩
        obtain hdirectory | hnode := node_of_spot hs
        · exact absurd hdirectory hblocked.1
        · rw [← hnode]
          exact hblocked.1

theorem extends_write {path : String} {c : Bytes} (h : t.write path c = .ok t') :
    t.Extends t' := by
  obtain ⟨s, -, -, -, hnode, rfl⟩ := write_eq_ok h
  exact extends_place hnode _

/-- Writing a file changes one place. -/
theorem node?_write {path : String} {c : Bytes} (h : t.write path c = .ok t') {l : Location}
    (hne : ∀ s, t.spot path = .ok s → s.node ≠ some .directory → s.location ≠ l) :
    t'.node? l = t.node? l := by
  obtain ⟨s, hs, hnode, -, hfree, rfl⟩ := write_eq_ok h
  rw [node?_place t (ne_nil_of_node? hfree), if_neg (hne s hs hnode)]

/-- A file that is made where nothing was read takes the place of nothing. -/
theorem new_of_write {path : String} {c : Bytes} (hread : t.read path = .error .notFound)
    (h : t.write path c = .ok t') :
    ∃ s, t'.spot path = .ok s ∧ t.node? s.location = none ∧ t.Grows t' := by
  have hextends := extends_write h
  obtain ⟨s, hs, hdirectory, hwants, -, rfl⟩ := write_eq_ok h
  have hnone : s.node = none := by
    cases hnode : s.node with
    | none => rfl
    | some n =>
        cases n with
        | directory => exact absurd hnode hdirectory
        | file c' =>
            rw [read_of_spot hs hnode hwants] at hread
            cases hread
  have hfree : t.node? s.location = none :=
    ((node_of_spot hs).resolve_left hdirectory).symm.trans hnone
  obtain ⟨s', hs', hsame⟩ := spot_of_extends hextends hs
  exact ⟨s', hs', by rw [hsame.location]; exact hfree, grows_place hfree _⟩

/-- What was written is read. -/
theorem read_write {path : String} {c : Bytes} (h : t.write path c = .ok t') :
    t'.read path = .ok c := by
  have hextends := extends_write h
  obtain ⟨s, hs, hnode, hwants, hfree, rfl⟩ := write_eq_ok h
  obtain ⟨s', hs', hnode', hwants'⟩ := spot_grown hextends hs hnode
  refine read_of_spot hs' ?_ (hwants'.trans hwants)
  rw [hnode', node?_place t (ne_nil_of_node? hfree), if_pos rfl]

theorem rename_eq_ok {source target : String} (h : t.rename source target = .ok t') :
    ∃ s d c, t.spot source = .ok s ∧ t.spot target = .ok d ∧ s.node = some (.file c) ∧
      d.node ≠ some .directory ∧ d.wantsDirectory = false ∧
      (s.location = d.location ∧ t' = t ∨ s.location ≠ d.location ∧
        t' = (t.place d.location (.file c)).without s.location) := by
  unfold rename at h
  cases hs : t.spot source with
  | error e =>
      rw [hs] at h
      cases h
  | ok s =>
      cases hd : t.spot target with
      | error e =>
          rw [hs, hd] at h
          cases h
      | ok d =>
          rw [hs, hd] at h
          cases hnode : s.node with
          | none =>
              simp only [hnode] at h
              cases h
          | some n =>
              cases n with
              | directory =>
                  simp only [hnode] at h
                  cases h
              | file c =>
                  simp only [hnode] at h
                  split at h
                  · cases h
                  · rename_i hwants
                    split at h
                    · cases h
                    · rename_i hdirectory
                      simp only [Bool.or_eq_true, not_or, Bool.not_eq_true] at hwants
                      refine ⟨s, d, c, rfl, rfl, hnode, hdirectory, hwants.2, ?_⟩
                      split at h
                      · rename_i hsame
                        exact .inl ⟨hsame, (Except.ok.inj h).symm⟩
                      · rename_i hdiffer
                        exact .inr ⟨hdiffer, (Except.ok.inj h).symm⟩

/-- Renaming a file changes two places. -/
theorem node?_rename {source target : String} (h : t.rename source target = .ok t') {l : Location}
    (hsource : ∀ s, t.spot source = .ok s → s.node ≠ some .directory → s.location ≠ l)
    (htarget : ∀ d, t.spot target = .ok d → d.node ≠ some .directory → d.location ≠ l) :
    t'.node? l = t.node? l := by
  obtain ⟨s, d, c, hs, hd, hfile, hnode, -, ⟨-, rfl⟩ | ⟨-, rfl⟩⟩ := rename_eq_ok h
  · rfl
  · have hfree : t.node? d.location ≠ some .directory := by
      rw [← (node_of_spot hd).resolve_left hnode]
      exact hnode
    rw [node?_without_of_ne _ (hsource s hs (by simp [hfile])),
      node?_place t (ne_nil_of_node? hfree), if_neg (htarget d hd hnode)]

/-- Renaming a file over another one takes no directory away, and the target has the contents of
the source. -/
theorem rename_spec {source target : String} {c : Bytes} (h : t.rename source target = .ok t')
    (hread : t.read source = .ok c) : t.Extends t' ∧ t'.read target = .ok c := by
  obtain ⟨s, d, c', hs, hd, hsource, htarget, hwants, hmoved⟩ := rename_eq_ok h
  obtain ⟨s₁, hs₁, hnode₁, -⟩ := spot_of_read hread
  obtain rfl : s = s₁ := Except.ok.inj (hs.symm.trans hs₁)
  obtain rfl : c' = c := by
    rw [hsource] at hnode₁
    exact Node.file.inj (Option.some.inj hnode₁)
  have hfile : t.node? s.location = some (.file c') := by
    obtain hdirectory | hnode := node_of_spot hs
    · rw [hsource] at hdirectory
      cases hdirectory
    · exact hnode.symm.trans hsource
  have hfree : t.node? d.location ≠ some .directory := by
    obtain hdirectory | hnode := node_of_spot hd
    · exact absurd hdirectory htarget
    · rw [← hnode]
      exact htarget
  obtain ⟨hsame, rfl⟩ | ⟨hdiffer, rfl⟩ := hmoved
  · refine ⟨.refl t', read_of_spot hd ?_ hwants⟩
    obtain hdirectory | hnode := node_of_spot hd
    · exact absurd hdirectory htarget
    · rw [hnode, ← hsame, hfile]
  · have hplaced : (t.place d.location (.file c')).node? s.location ≠ some .directory := by
      rw [node?_place t (ne_nil_of_node? hfree), if_neg (Ne.symm hdiffer), hfile]
      simp
    have hextends := (extends_place hfree (.file c')).trans (extends_without hplaced)
    obtain ⟨d', hd', hnode', hwants'⟩ := spot_grown hextends hd htarget
    refine ⟨hextends, read_of_spot hd' ?_ (hwants'.trans hwants)⟩
    rw [hnode', node?_without_of_ne _ hdiffer, node?_place t (ne_nil_of_node? hfree), if_pos rfl]

/-! ### Directories -/

theorem isDirectory_iff {path : String} :
    t.isDirectory path = true ↔ ∃ s, t.spot path = .ok s ∧ s.node = some .directory := by
  unfold isDirectory stat
  cases t.spot path with
  | error e => simp
  | ok s =>
      cases hnode : s.node with
      | none => simp [hnode]
      | some n =>
          cases n with
          | directory => simp [hnode]
          | file c => cases hwants : s.wantsDirectory <;> simp [hnode, hwants]

theorem Extends.isDirectory (h : t.Extends t') {path : String} (hd : t.isDirectory path = true) :
    t'.isDirectory path = true := by
  obtain ⟨s, hs, hnode⟩ := isDirectory_iff.mp hd
  obtain ⟨s', hs', hsame⟩ := spot_of_extends h hs
  refine isDirectory_iff.mpr ⟨s', hs', ?_⟩
  obtain ⟨-, hnode'⟩ | ⟨hold, hnew⟩ := hsame.node
  · exact hnode'
  · rw [hnew]
    exact h.directory _ (hold.symm.trans hnode)

theorem node?_of_spot_none {path : String} {s : Spot} (hs : t.spot path = .ok s)
    (hnode : s.node = none) : t.node? s.location = none := by
  obtain hdirectory | hsame := node_of_spot hs
  · rw [hnode] at hdirectory
    cases hdirectory
  · rw [← hsame, hnode]

/-- A directory that was made is there, and all other nodes stay as they were. -/
theorem makeDir_spec {path : String} (h : t.makeDir path = .ok t') :
    t.AddsDirectories t' ∧ t'.isDirectory path = true := by
  unfold makeDir at h
  cases hs : t.spot path with
  | error e =>
      rw [hs] at h
      cases h
  | ok s =>
      cases hnode : s.node with
      | some n =>
          simp only [hs, hnode] at h
          cases h
      | none =>
          simp only [hs, hnode] at h
          obtain rfl := Except.ok.inj h
          have hnone : t.node? s.location = none := node?_of_spot_none hs hnode
          have hfree : t.node? s.location ≠ some .directory := by simp [hnone]
          obtain ⟨s', hs', hnode', -⟩ :=
            spot_grown (extends_place hfree .directory) hs (by simp [hnode])
          refine ⟨⟨rfl, fun l => ?_⟩, isDirectory_iff.mpr ⟨s', hs', ?_⟩⟩
          · rw [node?_place t (ne_nil_of_node? hfree)]
            by_cases hl : s.location = l
            · rw [if_pos hl, ← hl]
              exact .inr ⟨hnone, rfl⟩
            · rw [if_neg hl]
              exact .inl rfl
          · rw [hnode', node?_place t (ne_nil_of_node? hfree), if_pos rfl]

/-- Whether a directory is there decides an attempt that could not make it. -/
theorem isDirectory_of_ok {path : String} {e : IoError}
    (h : (if t.isDirectory path = true then Except.ok () else Except.error e) = .ok ()) :
    t.isDirectory path = true := by
  by_cases hd : t.isDirectory path = true
  · exact hd
  · rw [if_neg hd] at h
    cases h

/-- To make a directory and its parents adds nothing but directories; when it is done, the directory
is there. -/
theorem makeDirsFrom_spec (t : Tree) (fuel : Nat) (path : String) :
    t.AddsDirectories (t.makeDirsFrom fuel path).2 ∧
      ((t.makeDirsFrom fuel path).1 = .ok () →
        path.isEmpty = true ∨ (t.makeDirsFrom fuel path).2.isDirectory path = true) := by
  fun_induction makeDirsFrom t fuel path with
  | case1 => exact ⟨.refl t, fun h => by cases h⟩
  | case2 fuel path hempty => exact ⟨.refl t, fun _ => .inl hempty⟩
  | case3 fuel path hempty made hmade =>
      obtain ⟨hadds, hthere⟩ := makeDir_spec hmade
      exact ⟨hadds, fun _ => .inr hthere⟩
  | case4 => exact ⟨.refl t, fun h => by cases h⟩
  | case5 fuel path hempty hmissing dir hparent e above habove ih =>
      rw [habove] at ih
      exact ⟨ih.1, fun h => by cases h⟩
  | case6 fuel path hempty hmissing dir hparent above habove made hmade ih =>
      rw [habove] at ih
      obtain ⟨hadds, hthere⟩ := makeDir_spec hmade
      exact ⟨ih.1.trans hadds, fun _ => .inr hthere⟩
  | case7 fuel path hempty hmissing dir hparent above habove e hmade ih =>
      rw [habove] at ih
      exact ⟨ih.1, fun h => .inr (isDirectory_of_ok h)⟩
  | case8 fuel path hempty e hother hmade => exact ⟨.refl t, fun h => .inr (isDirectory_of_ok h)⟩

/-- Nothing is to be done for a directory that is there. -/
theorem makeDirsFrom_of_isDirectory {path : String}
    (h : path.isEmpty = true ∨ t.isDirectory path = true) (fuel : Nat) :
    t.makeDirsFrom (fuel + 1) path = (.ok (), t) := by
  unfold makeDirsFrom
  by_cases hempty : path.isEmpty = true
  · rw [if_pos hempty]
  · rw [if_neg hempty]
    have hd := h.resolve_left hempty
    obtain ⟨s, hs, hnode⟩ := isDirectory_iff.mp hd
    have hmade : t.makeDir path = .error .alreadyExists := by
      unfold makeDir
      simp [hs, hnode]
    simp only [hmade, hd, if_true]

end TodoPromo.Files.Tree
