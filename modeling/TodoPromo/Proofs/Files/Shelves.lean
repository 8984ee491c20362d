import TodoPromo.Files.MapFile
import TodoPromo.Proofs.Files.Directories
import TodoPromo.Proofs.Files.MapFiles

/-! # The files of namespaces

The files of all namespaces that a directory admits stand side by side in it, and so do their
temporary files (`spot_filePath`, `spot_temporaryPath`); only the temporary file of the namespace `.`
would be the parent of the directory (`spot_temporaryPath_point`). A directory that holds one file
for each of some tables is a `Shelf`. Opening a namespace finds its table there, or puts an empty one
up (`Shelf.load`), and saving a table replaces it and no other (`Shelf.save`); for the namespace `.`
saving always fails (`Admitted.outcome_save_point`). -/

namespace TodoPromo.Files

variable {t t' : Tree} {dir name path : String} {l : Location}

/-! ### Writing and renaming at known places -/

namespace Tree

theorem node?_without (t : Tree) {l : Location} (h : l ≠ []) (l' : Location) :
    (t.without l).node? l' = if l = l' then none else t.node? l' := by
  by_cases hl : l = l'
  · subst hl
    rw [if_pos rfl]
    unfold node? without
    rw [if_neg h]
    exact (Table.get?_erase t.nodes l l).trans (if_pos rfl)
  · rw [if_neg hl, node?_without_of_ne t hl]

theorem write_of_spot {node : Option Node} (hs : t.spot path = .ok ⟨l, node, false⟩)
    (hnode : node ≠ some .directory) (c : Bytes) : t.write path c = .ok (t.place l (.file c)) := by
  unfold write
  rw [hs]
  simp [hnode]

theorem write_of_directory {wants : Bool} (hs : t.spot path = .ok ⟨l, some .directory, wants⟩)
    (c : Bytes) : t.write path c = .error .isDirectory := by
  unfold write
  rw [hs]
  simp

theorem rename_of_spot {source target : String} {l' : Location} {node : Option Node} {c : Bytes}
    (hs : t.spot source = .ok ⟨l, some (.file c), false⟩)
    (hd : t.spot target = .ok ⟨l', node, false⟩) (hnode : node ≠ some .directory) (hne : l ≠ l') :
    t.rename source target = .ok ((t.place l' (.file c)).without l) := by
  unfold rename
  rw [hs, hd]
  simp [hnode, hne]

theorem read_of_missing (hs : t.spot path = .ok ⟨l, none, false⟩) :
    t.read path = .error .notFound := by
  unfold read stat
  rw [hs]

end Tree

/-! ### Names -/

/-- A namespace that is accepted, and whose file the system accepts too. -/
structure Openable (dir name : String) : Prop where
  accepted : isNamespace name = true
  name_short : (name ++ ".json").utf8ByteSize ≤ Tree.nameLimit
  spellable : Tree.Spellable (FileProvider.filePath dir name)

/-- A namespace that is accepted, and whose file names the system accepts too. -/
structure Admitted (dir name : String) : Prop where
  accepted : isNamespace name = true
  no_nul : '\x00' ∉ (dir ++ name).toList
  name_short : (name ++ ".json.tmp").utf8ByteSize ≤ Tree.nameLimit
  path_short : (join dir (name ++ ".json.tmp")).utf8ByteSize ≤ Tree.pathLimit

theorem isNamespace_iff : isNamespace name = true ↔
    name.toList ≠ [] ∧ '/' ∉ name.toList ∧ '\\' ∉ name.toList ∧ hasPointPair name.toList = false := by
  unfold isNamespace
  simp [and_assoc]

theorem isName_append (h : isNamespace name = true) {ext : String} (hext : '/' ∉ ext.toList) :
    IsName (name ++ ext) := by
  obtain ⟨hne, hslash, -⟩ := isNamespace_iff.mp h
  refine ⟨fun hempty => ?_, ?_⟩
  · have hnil := congrArg String.toList hempty
    rw [String.toList_append] at hnil
    exact hne (List.append_eq_nil_iff.mp hnil).1
  · rw [String.toList_append, List.mem_append, not_or]
    exact ⟨hslash, hext⟩

/-- In a directory that is there, a name leads to its place with any extension, unless it is too long. -/
theorem spot_extended (h : isNamespace name = true) {ext : String} (hslash : '/' ∉ ext.toList)
    (hext : 3 ≤ ext.toList.length) (hspellable : Tree.Spellable (leadOf dir ++ (name ++ ext)))
    (hl : t.folder? dir = some l) :
    t.spot (leadOf dir ++ (name ++ ext)) =
      if Tree.nameLimit < (name ++ ext).utf8ByteSize then .error .nameTooLong
      else .ok ⟨l ++ [name ++ ext], t.node? (l ++ [name ++ ext]), false⟩ := by
  have hlength : 3 ≤ (name ++ ext).toList.length := by
    rw [String.toList_append, List.length_append]
    omega
  have hdot : name ++ ext ≠ "." := by
    intro hdot
    rw [hdot] at hlength
    exact absurd hlength (by decide)
  have hdots : name ++ ext ≠ ".." := by
    intro hdots
    rw [hdots] at hlength
    exact absurd hlength (by decide)
  rw [Tree.spot_of_walk (isLead_leadOf dir) (isName_append h hslash) hspellable
    ((Tree.folder?_leadOf t dir).trans hl)]
  by_cases hlong : Tree.nameLimit < (name ++ ext).utf8ByteSize
  · rw [if_pos hlong, Tree.follow.eq_4 _ _ _ _ _ hdot hdots, if_pos hlong]
  · rw [if_neg hlong, Tree.follow_last t ⟨hdot, hdots, hlong⟩]

/-- In a directory that is there, the file of a namespace stands under its name. -/
theorem Openable.spot_filePath (h : Openable dir name) (hl : t.folder? dir = some l) :
    t.spot (FileProvider.filePath dir name) =
      .ok ⟨l ++ [name ++ ".json"], t.node? (l ++ [name ++ ".json"]), false⟩ := by
  have hspellable := h.spellable
  unfold FileProvider.filePath at hspellable ⊢
  rw [join_eq] at hspellable ⊢
  rw [spot_extended h.accepted (by decide) (by decide) hspellable hl,
    if_neg (Nat.not_lt_of_le h.name_short)]

namespace Admitted

theorem spellable (h : Admitted dir name) {ext : String} (hnul : '\x00' ∉ ext.toList)
    (hsize : ext.utf8ByteSize ≤ ".json.tmp".utf8ByteSize) :
    Tree.Spellable (leadOf dir ++ (name ++ ext)) := by
  have hpath := h.path_short
  rw [join_eq] at hpath
  refine ⟨?_, fun hempty => ?_, ?_⟩
  · have hno := h.no_nul
    unfold leadOf
    simp only [String.toList_append, List.mem_append, not_or] at hno ⊢
    split
    · exact ⟨hno.1, hno.2, hnul⟩
    · rw [String.toList_append, List.mem_append, not_or]
      exact ⟨⟨hno.1, by decide⟩, hno.2, hnul⟩
  · have hnil := congrArg String.toList hempty
    simp only [String.toList_append] at hnil
    obtain ⟨hne, -⟩ := isNamespace_iff.mp h.accepted
    exact hne (List.append_eq_nil_iff.mp (List.append_eq_nil_iff.mp hnil).2).1
  · simp only [String.utf8ByteSize_append] at hpath ⊢
    omega

theorem openable (h : Admitted dir name) : Openable dir name := by
  refine ⟨h.accepted, ?_, ?_⟩
  · have hshort := h.name_short
    have hext : ".json".utf8ByteSize ≤ ".json.tmp".utf8ByteSize := by decide
    simp only [String.utf8ByteSize_append] at hshort ⊢
    omega
  · rw [FileProvider.filePath, join_eq]
    exact h.spellable (by decide) (by decide)

end Admitted

theorem temporaryPath_filePath (dir : String) (h : isNamespace name = true) :
    temporaryPath (FileProvider.filePath dir name) =
      leadOf dir ++ (if name = "." then ".." else name ++ ".json.tmp") := by
  have hname : IsName (name ++ ".json") := isName_append h (by decide)
  have hsplit : (name ++ ".json").toList = name.toList ++ '.' :: "json".toList := by
    rw [String.toList_append]
    rfl
  have htemporary := temporaryName_append (isNamespace_iff.mp h).1
    (by decide : '.' ∉ "json".toList)
  rw [← hsplit] at htemporary
  unfold FileProvider.filePath
  rw [join_eq, temporaryPath_append (isLead_leadOf dir) hname, htemporary]
  congr 1
  by_cases hpoint : name = "."
  · rw [if_pos hpoint, if_pos (by rw [hpoint]; rfl)]
  · have hcs : name.toList ≠ ['.'] := fun hcs => hpoint (String.toList_inj.mp hcs)
    rw [if_neg hpoint, if_neg hcs]
    refine String.toList_inj.mp ?_
    rw [String.toList_ofList, String.toList_append]

namespace Admitted

theorem spot_temporaryPath (h : Admitted dir name) (hpoint : name ≠ ".")
    (hl : t.folder? dir = some l) :
    t.spot (temporaryPath (FileProvider.filePath dir name)) =
      .ok ⟨l ++ [name ++ ".json.tmp"], t.node? (l ++ [name ++ ".json.tmp"]), false⟩ := by
  rw [temporaryPath_filePath dir h.accepted, if_neg hpoint, spot_extended h.accepted (by decide)
    (by decide) (h.spellable (by decide) (by decide)) hl, if_neg (Nat.not_lt_of_le h.name_short)]

/-- The temporary file of the namespace `.` would be the parent of the directory. -/
theorem spot_temporaryPath_point (h : Admitted dir ".") (hl : t.folder? dir = some l) :
    t.spot (temporaryPath (FileProvider.filePath dir ".")) =
      .ok ⟨l.dropLast, some .directory, false⟩ := by
  have hdots : "." ++ "." = ".." := rfl
  have hspellable := h.spellable (by decide : '\x00' ∉ ".".toList) (by decide)
  rw [hdots] at hspellable
  rw [temporaryPath_filePath dir h.accepted, if_pos rfl,
    Tree.spot_of_walk (isLead_leadOf dir) ⟨by decide, by decide⟩ hspellable
      ((Tree.folder?_leadOf t dir).trans hl)]
  rfl

end Admitted

theorem parent?_filePath (dir : String) (h : isNamespace name = true) :
    parent? (FileProvider.filePath dir name) = some (tidy dir) := by
  refine parent?_join dir (isName_append h (by decide)) fun hdot => ?_
  have hlength := congrArg (fun s => s.toList.length) hdot
  simp only [String.toList_append, List.length_append] at hlength
  rw [show ".json".toList.length = 5 from rfl, show ".".toList.length = 1 from rfl] at hlength
  omega

/-! ### Making the directory -/

/-- The directory of all namespaces can be made, and then the tree is this one. -/
def Prepared (dir : String) (before after : Tree) : Prop :=
  (Disk.makeDirs (tidy dir) : Attempt Tree Unit).run before = (.ok (), after)

namespace Prepared

variable {t₀ : Tree}

theorem isDirectory (h : Prepared dir t₀ t) :
    (tidy dir).isEmpty = true ∨ t.isDirectory (tidy dir) = true := by
  have hrun : t₀.makeDirsFrom ((tidy dir).length + 1) (tidy dir) = (.ok (), t) := h
  have hspec := Tree.makeDirsFrom_spec t₀ ((tidy dir).length + 1) (tidy dir)
  rw [hrun] at hspec
  exact hspec.2 rfl

theorem again (h : Prepared dir t₀ t) (hextends : t.Extends t') : Prepared dir t' t' :=
  Tree.makeDirsFrom_of_isDirectory (h.isDirectory.imp_right hextends.isDirectory) _

theorem folder? (h : Prepared dir t₀ t) : ∃ l, t.folder? dir = some l := by
  rw [← Tree.folder?_tidy]
  obtain hempty | hdirectory := h.isDirectory
  · rw [String.isEmpty_iff.mp hempty]
    exact ⟨_, rfl⟩
  · exact Tree.folder?_of_isDirectory hdirectory

theorem makeParent (h : Prepared dir t₀ t) (hname : isNamespace name = true) :
    (MapFile.makeParent (FileProvider.filePath dir name) : Action Tree Unit).outcome t₀ =
      (.ok (), t) := by
  unfold MapFile.makeParent
  rw [parent?_filePath dir hname]
  exact Attempt.outcome_ok h

end Prepared

/-! ### Saving -/

theorem file_inj {name name' : String} (h : name' ++ ".json" = name ++ ".json") : name' = name := by
  have hcs := congrArg String.toList h
  rw [String.toList_append, String.toList_append] at hcs
  exact String.toList_inj.mp (List.append_cancel_right hcs)

theorem file_ne_temporary (name name' : String) : name' ++ ".json" ≠ name ++ ".json.tmp" := by
  intro h
  have hlast := congrArg (fun s => s.toList.getLast?) h
  simp at hlast

theorem place_ne {x y : String} (h : x ≠ y) : l ++ [x] ≠ l ++ [y] := by
  intro hsame
  exact h (by simpa using List.append_cancel_left hsame)

/-- In a directory that is there, a table is saved where no directory is in the way: it takes the place of
the file, by way of the temporary file. -/
theorem Admitted.outcome_save (h : Admitted dir name) (hpoint : name ≠ ".")
    (hl : t.folder? dir = some l) (htemporary : t.node? (l ++ [name ++ ".json.tmp"]) ≠ some .directory)
    (hfile : t.node? (l ++ [name ++ ".json"]) ≠ some .directory) (table : Contents) :
    (MapFile.save (FileProvider.filePath dir name) table : Action Tree Unit).outcome t =
      (.ok (), ((t.place (l ++ [name ++ ".json.tmp"]) (.file (Json.encode table))).place
        (l ++ [name ++ ".json"]) (.file (Json.encode table))).without (l ++ [name ++ ".json.tmp"])) := by
  have hdiffer : l ++ [name ++ ".json.tmp"] ≠ l ++ [name ++ ".json"] :=
    place_ne (Ne.symm (file_ne_temporary name name))
  have hwrite := Tree.write_of_spot (h.spot_temporaryPath hpoint hl) htemporary (Json.encode table)
  have hfolder := Tree.folder?_of_extends (Tree.extends_write hwrite) hl
  -- the two places in the tree with the temporary file
  have hsource := h.spot_temporaryPath hpoint hfolder
  rw [Tree.node?_place t (by simp), if_pos rfl] at hsource
  have htarget := h.openable.spot_filePath hfolder
  rw [Tree.node?_place t (by simp), if_neg hdiffer] at htarget
  have hrename := Tree.rename_of_spot hsource htarget hfile hdiffer
  rw [MapFile.outcome_save]
  simp only [hwrite, hrename]

/-- Nothing can be saved in the namespace `.`. -/
theorem Admitted.outcome_save_point (h : Admitted dir ".") (hl : t.folder? dir = some l)
    (table : Contents) :
    (MapFile.save (FileProvider.filePath dir ".") table : Action Tree Unit).outcome t =
      (.error (.storage IoError.isDirectory.message), t) := by
  have hwrite := Tree.write_of_directory (h.spot_temporaryPath_point hl) (Json.encode table)
  rw [MapFile.outcome_save, hwrite]

/-! ### Shelves -/

/-- A directory that holds a file for each of some tables, and no directories. -/
structure Shelf (dir : String) (spaces : MemoryProvider) (l : Location) (t : Tree) : Prop where
  folder : t.folder? dir = some l
  no_directory : ∀ x, t.node? (l ++ [x]) ≠ some .directory
  missing : ∀ name, spaces.get? name = none → t.node? (l ++ [name ++ ".json"]) = none
  stored : ∀ name table, spaces.get? name = some table →
    ∃ c, t.node? (l ++ [name ++ ".json"]) = some (.file c) ∧
      MapFile.decodeTable (FileProvider.filePath dir name) c = .ok table

namespace Shelf

variable {spaces : MemoryProvider} {table : Contents}

theorem put (h : Shelf dir spaces l t) (hextends : t.Extends t') {c : Bytes}
    (hfile : t'.node? (l ++ [name ++ ".json"]) = some (.file c))
    (hdecode : MapFile.decodeTable (FileProvider.filePath dir name) c = .ok table)
    (hothers : ∀ x, x ≠ name ++ ".json" → t'.node? (l ++ [x]) = t.node? (l ++ [x]) ∨
      x = name ++ ".json.tmp" ∧ t'.node? (l ++ [x]) = none) :
    Shelf dir (spaces.insert name table) l t' := by
  have hother : ∀ name', name' ≠ name →
      t'.node? (l ++ [name' ++ ".json"]) = t.node? (l ++ [name' ++ ".json"]) := by
    intro name' hne
    obtain hsame | ⟨htemporary, -⟩ := hothers _ fun hx => hne (file_inj hx)
    · exact hsame
    · exact absurd htemporary (file_ne_temporary name name')
  refine ⟨Tree.folder?_of_extends hextends h.folder, fun x => ?_, fun name' hnone => ?_,
    fun name' table' hsome => ?_⟩
  · by_cases hx : x = name ++ ".json"
    · rw [hx, hfile]
      simp
    · obtain hsame | ⟨-, hnone⟩ := hothers x hx
      · rw [hsame]
        exact h.no_directory x
      · rw [hnone]
        simp
  · rw [Table.get?_insert] at hnone
    by_cases hname : name = name'
    · rw [if_pos hname] at hnone
      cases hnone
    · rw [if_neg hname] at hnone
      rw [hother name' (Ne.symm hname)]
      exact h.missing name' hnone
  · rw [Table.get?_insert] at hsome
    by_cases hname : name = name'
    · rw [if_pos hname] at hsome
      obtain rfl := Option.some.inj hsome
      rw [← hname]
      exact ⟨c, hfile, hdecode⟩
    · rw [if_neg hname] at hsome
      rw [hother name' (Ne.symm hname)]
      exact h.stored name' table' hsome

theorem load {t₀ : Tree} (h : Shelf dir spaces l t) (hprepared : Prepared dir t₀ t)
    (hname : Openable dir name) :
    ∃ t', (MapFile.load (FileProvider.filePath dir name) :
          Action Tree (MapFile String Bytes)).outcome t₀ =
        (.ok ⟨FileProvider.filePath dir name, (spaces.get? name).getD ∅⟩, t') ∧
      Shelf dir (spaces.openNamespace name) l t' ∧ t.Extends t' := by
  have hspot := hname.spot_filePath h.folder
  rw [MapFile.outcome_load (hprepared.makeParent hname.accepted)]
  unfold MemoryProvider.openNamespace Table.contains
  cases hspace : spaces.get? name with
  | some table =>
      obtain ⟨c, hnode, hdecode⟩ := h.stored name table hspace
      rw [hnode] at hspot
      have hread := Tree.read_of_spot hspot rfl rfl
      refine ⟨t, ?_, ?_, .refl t⟩
      · simp only [hread, hdecode]
        rfl
      · exact h
  | none =>
      have hnode := h.missing name hspace
      rw [hnode] at hspot
      have hread := Tree.read_of_missing hspot
      have hwrite := Tree.write_of_spot hspot (by simp) (Json.encode (∅ : Contents))
      have hextends := Tree.extends_write hwrite
      have hplace : ∀ x, (t.place (l ++ [name ++ ".json"]) (.file (Json.encode (∅ : Contents)))).node?
          (l ++ [x]) = if l ++ [name ++ ".json"] = l ++ [x] then
            some (.file (Json.encode (∅ : Contents))) else t.node? (l ++ [x]) :=
        fun x => Tree.node?_place t (by simp) _ _
      refine ⟨_, ?_, ?_, hextends⟩
      · simp only [hread, hwrite]
        rfl
      · refine h.put hextends ?_ (MapFile.decodeTable_encode _ ∅) fun x hx => .inl ?_
        · rw [hplace, if_pos rfl]
        · rw [hplace, if_neg (place_ne (Ne.symm hx))]

/-- Saving a table puts it in the place of the one that was there, by way of the temporary file. -/
theorem save (h : Shelf dir spaces l t) (hname : Admitted dir name) (hpoint : name ≠ ".")
    (table : Contents) :
    ∃ t', (MapFile.save (FileProvider.filePath dir name) table : Action Tree Unit).outcome t =
        (.ok (), t') ∧
      Shelf dir (spaces.insert name table) l t' ∧ t.Extends t' := by
  have hdiffer : l ++ [name ++ ".json.tmp"] ≠ l ++ [name ++ ".json"] :=
    place_ne (Ne.symm (file_ne_temporary name name))
  have hsaved := hname.outcome_save hpoint h.folder (h.no_directory _) (h.no_directory _) table
  obtain ⟨hextends, -⟩ := MapFile.save_spec hsaved
  refine ⟨_, hsaved, ?_, hextends⟩
  have hnode : ∀ x, (((t.place (l ++ [name ++ ".json.tmp"]) (.file (Json.encode table))).place
      (l ++ [name ++ ".json"]) (.file (Json.encode table))).without
        (l ++ [name ++ ".json.tmp"])).node? (l ++ [x]) =
      if l ++ [name ++ ".json.tmp"] = l ++ [x] then none
      else if l ++ [name ++ ".json"] = l ++ [x] then some (.file (Json.encode table))
      else t.node? (l ++ [x]) := by
    intro x
    rw [Tree.node?_without _ (by simp), Tree.node?_place _ (by simp), Tree.node?_place _ (by simp)]
    by_cases hx : l ++ [name ++ ".json.tmp"] = l ++ [x]
    · rw [if_pos hx, if_pos hx]
    · rw [if_neg hx, if_neg hx, if_neg hx]
  refine h.put hextends ?_ (MapFile.decodeTable_encode _ table) fun x hx => ?_
  · rw [hnode, if_neg hdiffer, if_pos rfl]
  · by_cases htemporary : x = name ++ ".json.tmp"
    · refine .inr ⟨htemporary, ?_⟩
      rw [hnode, htemporary, if_pos rfl]
    · refine .inl ?_
      rw [hnode, if_neg (place_ne (Ne.symm htemporary)), if_neg (place_ne (Ne.symm hx))]

end Shelf
end TodoPromo.Files
