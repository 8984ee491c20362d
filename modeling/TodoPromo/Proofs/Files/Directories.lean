import TodoPromo.Proofs.Files.Paths
import TodoPromo.Proofs.Files.Trees

/-! # Files in directories

The lead of a path is walked through directories (`walk`); only the name at the end may stand for a
file, or for nothing yet (`spot_of_walk`, `walk_of_spot`). So the temporary file of a path stands in
the same directory, in another place (`temporary_elsewhere`). -/

namespace TodoPromo.Files.Tree

variable {t t' : Tree} {slash : Bool} {here l : Location} {lead name path : String} {s d : Spot}

/-- The directory that some components lead to, from a directory on. -/
def walk (t : Tree) (here : Location) : List String → Option Location
  | [] => some here
  | "." :: rest => walk t here rest
  | ".." :: rest => walk t here.dropLast rest
  | name :: rest =>
    if nameLimit < name.utf8ByteSize then none
    else if t.node? (here ++ [name]) = some .directory then walk t (here ++ [name]) rest
    else none

/-- Where paths start. -/
def start (t : Tree) (path : String) : Location := if isAbsolute path then [] else t.workDir

/-- The place of a directory, if it is there. -/
def folder? (t : Tree) (dir : String) : Option Location := t.walk (t.start dir) (components dir)

/-! ### Walking -/

theorem walk_name (t : Tree) (h : Nameable name) (here : Location) (rest : List String) :
    t.walk here (name :: rest) =
      if t.node? (here ++ [name]) = some .directory then t.walk (here ++ [name]) rest else none := by
  obtain ⟨h1, h2, h3⟩ := h
  rw [walk.eq_4 _ _ _ _ h1 h2, if_neg h3]

theorem walk_filter (t : Tree) (here : Location) (cs : List String) :
    t.walk here (cs.filter (· ≠ ".")) = t.walk here cs := by
  fun_induction walk t here cs with
  | case1 here => rfl
  | case2 here rest ih => exact ih
  | case3 here rest ih => exact ih
  | case4 here name rest hdot hdots hlong =>
      rw [List.filter_cons_of_pos (by simpa using hdot), walk.eq_4 _ _ _ _ hdot hdots, if_pos hlong]
  | case5 here name rest hdot hdots hshort hnode ih =>
      rw [List.filter_cons_of_pos (by simpa using hdot), walk_name t ⟨hdot, hdots, hshort⟩,
        if_pos hnode]
      exact ih
  | case6 here name rest hdot hdots hshort hnode =>
      rw [List.filter_cons_of_pos (by simpa using hdot), walk_name t ⟨hdot, hdots, hshort⟩,
        if_neg hnode]

theorem walk_of_extends (h : t.Extends t') {cs : List String} (hwalk : t.walk here cs = some l) :
    t'.walk here cs = some l := by
  fun_induction walk t here cs with
  | case1 here => exact hwalk
  | case2 here rest ih => exact ih hwalk
  | case3 here rest ih => exact ih hwalk
  | case4 => cases hwalk
  | case5 here name rest hdot hdots hshort hnode ih =>
      rw [walk_name t' ⟨hdot, hdots, hshort⟩, if_pos (h.directory _ hnode)]
      exact ih hwalk
  | case6 => cases hwalk

theorem start_of_extends (h : t.Extends t') (path : String) : t'.start path = t.start path := by
  unfold start
  rw [h.workDir]

theorem folder?_of_extends (h : t.Extends t') {dir : String} (hdir : t.folder? dir = some l) :
    t'.folder? dir = some l := by
  unfold folder?
  rw [start_of_extends h]
  exact walk_of_extends h hdir

theorem start_tidy (t : Tree) (dir : String) : t.start (tidy dir) = t.start dir := by
  unfold start
  rw [isAbsolute_tidy]

theorem folder?_tidy (t : Tree) (dir : String) : t.folder? (tidy dir) = t.folder? dir := by
  unfold folder?
  rw [start_tidy, components_tidy, ← walk_filter, filter_significant, walk_filter]

/-- Following components and a name is walking to a directory and following the name there. -/
theorem follow_of_walk {cs : List String} (h : t.walk here cs = some l) (name : String) :
    t.follow slash here (cs ++ [name]) = t.follow slash l [name] := by
  fun_induction walk t here cs with
  | case1 here =>
      obtain rfl := Option.some.inj h
      rfl
  | case2 here rest ih => exact ih h
  | case3 here rest ih => exact ih h
  | case4 => cases h
  | case5 here next rest hdot hdots hshort hnode ih =>
      rw [← ih h]
      cases hrest : rest ++ [name] with
      | nil => simp at hrest
      | cons c cs =>
          rw [List.cons_append, hrest]
          exact follow_down ⟨hdot, hdots, hshort⟩ slash cs hnode
  | case6 => cases h

theorem walk_of_follow {cs : List String}
    (h : t.follow slash here (cs ++ [name]) = .ok s) :
    ∃ l, t.walk here cs = some l ∧ t.follow slash l [name] = .ok s := by
  fun_induction walk t here cs with
  | case1 here => exact ⟨here, rfl, h⟩
  | case2 here rest ih => exact ih h
  | case3 here rest ih => exact ih h
  | case4 here next rest hdot hdots hlong =>
      rw [List.cons_append, follow.eq_4 _ _ _ _ _ hdot hdots, if_pos hlong] at h
      cases h
  | case5 here next rest hdot hdots hshort hnode ih =>
      refine ih ?_
      cases hrest : rest ++ [name] with
      | nil => simp at hrest
      | cons c cs =>
          rw [List.cons_append, hrest, follow_down ⟨hdot, hdots, hshort⟩ slash cs hnode] at h
          exact h
  | case6 here next rest hdot hdots hshort hnode =>
      cases hrest : rest ++ [name] with
      | nil => simp at hrest
      | cons c cs =>
          rw [List.cons_append, hrest, follow.eq_4 _ _ _ _ _ hdot hdots, if_neg hshort] at h
          simp only at h
          split at h
          · rename_i heq
            cases heq
          · cases h
          · cases h
          · rename_i hdirectory
            exact absurd hdirectory hnode

/-- What is at the end of a path: it is wanted as the path says, and a directory there was walked to. -/
theorem follow_end {cs : List String} (h : t.follow slash here cs = .ok s) :
    s.wantsDirectory = slash ∧ (s.node = some .directory → t.walk here cs = some s.location) := by
  fun_induction follow t slash here cs with
  | case1 here =>
      obtain rfl := Except.ok.inj h
      exact ⟨rfl, fun _ => rfl⟩
  | case2 here rest ih => exact ih h
  | case3 here rest ih => exact ih h
  | case4 => cases h
  | case5 here name hdot hdots hshort next =>
      obtain rfl := Except.ok.inj h
      refine ⟨rfl, fun hnode => ?_⟩
      rw [walk_name t ⟨hdot, hdots, hshort⟩, if_pos hnode]
      rfl
  | case6 => cases h
  | case7 => cases h
  | case8 here name hdot hdots hshort below next rest hnext ih =>
      rw [walk_name t ⟨hdot, hdots, hshort⟩, if_pos hnext]
      exact ih h

/-! ### Spots -/

/-- What the system asks of the text of a path. -/
structure Spellable (path : String) : Prop where
  no_nul : '\x00' ∉ path.toList
  nonempty : path ≠ ""
  short : path.utf8ByteSize ≤ pathLimit

theorem spot_eq_follow (t : Tree) (h : Spellable path) :
    t.spot path = t.follow (endsInSlash path) (t.start path) (components path) := by
  unfold spot
  rw [if_neg (by simpa using h.no_nul), if_neg (by simpa [String.isEmpty_iff] using h.nonempty),
    if_neg (by have := h.short; omega)]
  rfl

theorem spellable_of_spot (h : t.spot path = .ok s) : Spellable path := by
  unfold spot at h
  split at h
  · cases h
  · rename_i hnul
    split at h
    · cases h
    · rename_i hempty
      split at h
      · cases h
      · rename_i hlong
        refine ⟨by simpa using hnul, by simpa [String.isEmpty_iff] using hempty, by omega⟩

theorem endsInSlash_append (hname : IsName name) (lead : String) :
    endsInSlash (lead ++ name) = false := by
  rw [Bool.eq_false_iff]
  intro h
  unfold endsInSlash at h
  have hne : name.toList ≠ [] := fun hnil => hname.nonempty (String.toList_inj.mp hnil)
  rw [beq_iff_eq, String.toList_append, List.getLast?_append, Option.or_of_isSome] at h
  · exact hname.no_slash (List.mem_of_getLast? h)
  · simpa using hne

theorem spot_append (t : Tree) (hlead : IsLead lead) (hname : IsName name)
    (h : Spellable (lead ++ name)) :
    t.spot (lead ++ name) = t.follow false (t.start lead) (components lead ++ [name]) := by
  rw [spot_eq_follow t h, components_append hlead hname, endsInSlash_append hname]
  unfold start
  rw [isAbsolute_append hlead hname]

theorem folder?_leadOf (t : Tree) (dir : String) : t.folder? (leadOf dir) = t.folder? dir := by
  unfold folder? start
  rw [components_leadOf, isAbsolute_leadOf]

/-- In a directory that is there, a name leads to its place. -/
theorem spot_of_walk (hlead : IsLead lead) (hname : IsName name) (h : Spellable (lead ++ name))
    (hfolder : t.folder? lead = some l) :
    t.spot (lead ++ name) = t.follow false l [name] := by
  rw [spot_append t hlead hname h]
  exact follow_of_walk hfolder name

theorem walk_of_spot (hlead : IsLead lead) (hname : IsName name)
    (h : t.spot (lead ++ name) = .ok s) :
    ∃ l, t.folder? lead = some l ∧ t.follow false l [name] = .ok s := by
  rw [spot_append t hlead hname (spellable_of_spot h)] at h
  exact walk_of_follow h

/-- A single name leads to its place, unless it is made of points and leads to a directory. -/
theorem follow_name_cases (h : t.follow slash l [name] = .ok s) :
    s.node = some .directory ∨
      Nameable name ∧ s = ⟨l ++ [name], t.node? (l ++ [name]), slash⟩ := by
  by_cases hdot : name = "."
  · subst hdot
    obtain rfl := Except.ok.inj h
    exact .inl rfl
  by_cases hdots : name = ".."
  · subst hdots
    obtain rfl := Except.ok.inj h
    exact .inl rfl
  by_cases hlong : nameLimit < name.utf8ByteSize
  · rw [follow.eq_4 _ _ _ _ _ hdot hdots, if_pos hlong] at h
    cases h
  · have hnameable : Nameable name := ⟨hdot, hdots, hlong⟩
    rw [follow_last t hnameable] at h
    exact .inr ⟨hnameable, (Except.ok.inj h).symm⟩

/-- A path that leads to no directory leads to its name in the directory of its lead. -/
theorem folder?_of_spot (hlead : IsLead lead) (hname : IsName name)
    (h : t.spot (lead ++ name) = .ok s) (hnode : s.node ≠ some .directory) :
    ∃ l, t.folder? lead = some l ∧ Nameable name ∧
      s = ⟨l ++ [name], t.node? (l ++ [name]), false⟩ := by
  obtain ⟨l, hfolder, hfollow⟩ := walk_of_spot hlead hname h
  exact ⟨l, hfolder, (follow_name_cases hfollow).resolve_left hnode⟩

theorem folder?_of_isDirectory {dir : String} (h : t.isDirectory dir = true) :
    ∃ l, t.folder? dir = some l := by
  obtain ⟨s, hs, hnode⟩ := isDirectory_iff.mp h
  have hspot := spot_eq_follow t (spellable_of_spot hs)
  exact ⟨s.location, (follow_end (hspot.symm.trans hs)).2 hnode⟩

/-- A file and its temporary file stand in different places. -/
theorem temporary_elsewhere (hs : t.spot (temporaryPath path) = .ok s)
    (htemporary : s.node ≠ some .directory) (hd : t.spot path = .ok d)
    (hfile : d.node ≠ some .directory) (hwants : d.wantsDirectory = false) :
    s.location ≠ d.location := by
  have hspellable := spellable_of_spot hd
  have hslash : endsInSlash path = false := by
    rw [spot_eq_follow t hspellable] at hd
    rw [← (follow_end hd).1]
    exact hwants
  obtain ⟨lead, name, rfl, hlead, hname⟩ := exists_lead hspellable.nonempty hslash
  rw [temporaryPath_append hlead hname] at hs
  obtain ⟨l, hfolder, hnameable, rfl⟩ := folder?_of_spot hlead hname hd hfile
  obtain ⟨l', hfolder', -, rfl⟩ := folder?_of_spot hlead (isName_temporary hname) hs htemporary
  obtain rfl : l = l' := Option.some.inj (hfolder.symm.trans hfolder')
  intro hsame
  have hnames : String.ofList (temporaryName name.toList) = name := by
    simpa using List.append_cancel_left hsame
  have hdots : name.toList ≠ ['.', '.'] := fun h => hnameable.ne_dots (String.toList_inj.mp h)
  have hchars := congrArg String.toList hnames
  rw [String.toList_ofList] at hchars
  exact temporaryName_ne hdots hchars

/-- Whatever is written to the temporary file of a path, the file is read as before. -/
theorem read_of_write_temporary {c part : Bytes} (hread : t.read path = .ok c)
    (hwrite : t.write (temporaryPath path) part = .ok t') : t'.read path = .ok c := by
  obtain ⟨d, hd, hfile, hwants⟩ := spot_of_read hread
  refine read_of_extends (extends_write hwrite) hd hread (node?_write hwrite fun s hs hnode => ?_)
  exact temporary_elsewhere hs hnode hd (by simp [hfile]) hwants

end TodoPromo.Files.Tree
