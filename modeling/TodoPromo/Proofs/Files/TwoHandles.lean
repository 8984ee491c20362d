import TodoPromo.Config.Basic
import TodoPromo.Proofs.Files.MapFiles

/-! # Two handles on one file

Two providers that open one namespace of one directory each load the file once, and from then on
every write of theirs puts their own table in its place. So the file holds what the handle that
wrote last knows: its own writes and the table from the opening, but not what the other handle wrote
(`reopened_of_setAll`), and a write that was acknowledged is kept only if the handle that wrote last
agrees with it. Under the default settings a single write through each handle loses the first of
them (`writes_lost_by_default`). -/

namespace TodoPromo.Files

namespace FileProvider

variable {dir name : String} {t t' : Tree} {m : MapFile String Bytes} {p : FileProvider}

theorem outcome_openNamespace (h : isNamespace name = true) (dir : String) (t : Tree) :
    (openNamespace name).outcome (ofDir dir, t) =
      match (MapFile.load (filePath dir name) : Action Tree (MapFile String Bytes)).outcome t with
      | (.ok m, t) => (.ok m, (⟨dir, Table.insert ∅ name m⟩, t))
      | (.error e, t) => (.error e, (ofDir dir, t)) := by
  unfold openNamespace ofDir
  rw [Action.outcome_ofFunction]
  have hnone : (∅ : Table String (MapFile String Bytes)).get? name = none := rfl
  simp only [h, Bool.not_true, Bool.false_eq_true, if_false, hnone]
  cases (MapFile.load (filePath dir name) : Action Tree (MapFile String Bytes)).outcome t with
  | mk r s => cases r <;> rfl

theorem openNamespace_spec (h : (openNamespace name).outcome (ofDir dir, t) = (.ok m, (p, t'))) :
    isNamespace name = true ∧ p.opened.get? name = some m ∧
      (MapFile.load (filePath dir name) : Action Tree (MapFile String Bytes)).outcome t =
        (.ok m, t') := by
  cases hname : isNamespace name with
  | false =>
      unfold openNamespace at h
      rw [Action.outcome_ofFunction] at h
      simp only [hname, Bool.not_false, if_true] at h
      cases (Prod.mk.inj h).1
  | true =>
      rw [outcome_openNamespace hname] at h
      cases hload : (MapFile.load (filePath dir name) :
          Action Tree (MapFile String Bytes)).outcome t with
      | mk r s =>
          rw [hload] at h
          cases r with
          | error e => cases (Prod.mk.inj h).1
          | ok m' =>
              obtain ⟨hm, hrest⟩ := Prod.mk.inj h
              obtain ⟨rfl, rfl⟩ := Prod.mk.inj hrest
              obtain rfl := Except.ok.inj hm
              exact ⟨rfl, (Table.get?_insert _ _ _ _).trans (if_pos rfl), rfl⟩

theorem within_set {p' : FileProvider} {key : String} {value : Bytes}
    (hm : p.opened.get? name = some m)
    (h : within name (KeyValue.set key value) (p, t) = some (.ok (), (p', t'))) :
    ∃ m', (MapFile.insert key value).outcome (m, t) = (.ok (), (m', t')) ∧
      p' = { p with opened := p.opened.insert name m' } := by
  unfold within at h
  simp only [hm, Option.map_some, Option.some.injEq] at h
  have hset : (KeyValue.set key value : Action (MapFile String Bytes × Tree) Unit) =
      MapFile.insert key value := rfl
  rw [hset] at h
  cases hinsert : (MapFile.insert key value).outcome (m, t) with
  | mk r rest =>
      simp only [hinsert, Prod.mk.injEq] at h
      obtain ⟨rfl, rfl, rfl⟩ := h
      exact ⟨rest.1, rfl, rfl⟩

end FileProvider

/-! ### Two providers -/

inductive Side where
  | left
  | right
  deriving DecidableEq

/-- Two providers on one disk. -/
structure TwoProviders where
  left : FileProvider
  right : FileProvider
  disk : Tree

/-- A value for a key, set through the handle of one side. -/
structure Assignment where
  side : Side
  key : String
  value : Bytes

namespace TwoProviders

def provider (s : TwoProviders) : Side → FileProvider
  | .left => s.left
  | .right => s.right

def replace (s : TwoProviders) (p : FileProvider) (disk : Tree) : Side → TwoProviders
  | .left => ⟨p, s.right, disk⟩
  | .right => ⟨s.left, p, disk⟩

/-- Both sides open the namespace, one after the other. -/
def openBoth (dir name : String) (t : Tree) : Option TwoProviders :=
  match (FileProvider.openNamespace name).outcome (.ofDir dir, t) with
  | (.ok _, (left, t)) =>
    match (FileProvider.openNamespace name).outcome (.ofDir dir, t) with
    | (.ok _, (right, disk)) => some ⟨left, right, disk⟩
    | _ => none
  | _ => none

/-- Sets values one after another; there is no outcome unless all calls are acknowledged. -/
def setAll (name : String) : List Assignment → TwoProviders → Option TwoProviders
  | [], s => some s
  | a :: as, s =>
    match FileProvider.within name (KeyValue.set a.key a.value) (s.provider a.side, s.disk) with
    | some (.ok (), (p, disk)) => setAll name as (s.replace p disk a.side)
    | _ => none

/-- What a new provider finds in the namespace. -/
def reopened (dir name : String) (t : Tree) : Except ActionError (MapFile String Bytes) :=
  ((FileProvider.openNamespace name).outcome (.ofDir dir, t)).1

theorem provider_replace (s : TwoProviders) (p : FileProvider) (disk : Tree) (side side' : Side) :
    (s.replace p disk side).provider side' = if side = side' then p else s.provider side' := by
  cases side <;> cases side' <;> rfl

theorem disk_replace (s : TwoProviders) (p : FileProvider) (disk : Tree) (side : Side) :
    (s.replace p disk side).disk = disk := by
  cases side <;> rfl

end TwoProviders

/-! ### Tables of assignments -/

/-- A table with assignments made to it in order. -/
def assigned (table : Table String Bytes) (as : List Assignment) : Table String Bytes :=
  as.foldl (fun table a => table.insert a.key a.value) table

/-- The value that a key was given last. -/
def lastValue (key : String) : List Assignment → Option Bytes
  | [] => none
  | a :: as => (lastValue key as).or (if a.key = key then some a.value else none)

/-- The assignments of one side. -/
def ofSide (side : Side) (as : List Assignment) : List Assignment := as.filter (·.side = side)

/-- The assignments of the side that made the last one. -/
def ofLastWriter (as : List Assignment) : List Assignment :=
  match as.getLast? with
  | some a => ofSide a.side as
  | none => []

theorem get?_assigned (table : Table String Bytes) (as : List Assignment) (key : String) :
    (assigned table as).get? key = (lastValue key as).or (table.get? key) := by
  induction as generalizing table with
  | nil => rfl
  | cons a as ih =>
      change (assigned (table.insert a.key a.value) as).get? key = _
      rw [ih, Table.get?_insert, lastValue]
      by_cases hkey : a.key = key
      · rw [if_pos hkey, if_pos hkey]
        cases lastValue key as <;> rfl
      · rw [if_neg hkey, if_neg hkey]
        cases lastValue key as <;> rfl

theorem assigned_cons (table : Table String Bytes) (a : Assignment) (as : List Assignment)
    (side : Side) :
    assigned (if side = a.side then table.insert a.key a.value else table) (ofSide side as) =
      assigned table (ofSide side (a :: as)) := by
  unfold ofSide
  by_cases hside : side = a.side
  · rw [if_pos hside, List.filter_cons_of_pos (by simp [hside])]
    rfl
  · rw [if_neg hside, List.filter_cons_of_neg (by simp [Ne.symm hside])]

/-! ### The file that two handles share -/

/-- The two handles have these tables, and the file of the namespace spells this one. -/
structure Shares (name path : String) (s : TwoProviders) (tables : Side → Table String Bytes)
    (file : Table String Bytes) : Prop where
  handle : ∀ side, (s.provider side).opened.get? name = some ⟨path, tables side⟩
  housed : MapFile.Housed path s.disk
  stored : ∃ c, s.disk.read path = .ok c ∧ MapFile.decodeTable path c = .ok file

namespace Shares

variable {dir name path : String} {t : Tree} {s s' : TwoProviders}
  {tables : Side → Table String Bytes} {file : Table String Bytes}

theorem of_openBoth (h : TwoProviders.openBoth dir name t = some s) :
    ∃ opening, Shares name (FileProvider.filePath dir name) s (fun _ => opening) opening ∧
      isNamespace name = true := by
  unfold TwoProviders.openBoth at h
  split at h
  · rename_i m left t₁ hleft
    split at h
    · rename_i m' right disk hright
      obtain rfl := Option.some.inj h
      obtain ⟨hname, hm, hload⟩ := FileProvider.openNamespace_spec hleft
      obtain ⟨-, hm', hload'⟩ := FileProvider.openNamespace_spec hright
      obtain ⟨hpath, -, ⟨hhoused, c, hread, hdecode⟩, -⟩ := MapFile.load_spec hload
      rw [hpath] at hhoused hread hdecode
      have hagain := MapFile.load_of_housed hhoused hread hdecode
      obtain ⟨hok, rfl⟩ := Prod.mk.inj (hload'.symm.trans hagain)
      obtain rfl := Except.ok.inj hok
      refine ⟨m.table, ⟨?_, hhoused, c, hread, hdecode⟩, hname⟩
      intro side
      cases side with
      | left =>
          rw [← hpath]
          exact hm
      | right => exact hm'
    · cases h
  · cases h

/-- A set that is acknowledged changes the table of its handle, and puts that table in the file. -/
theorem set (h : Shares name path s tables file) {side : Side} {key : String} {value : Bytes}
    {p : FileProvider} {disk : Tree}
    (hset : FileProvider.within name (KeyValue.set key value) (s.provider side, s.disk) =
      some (.ok (), (p, disk))) :
    Shares name path (s.replace p disk side)
      (fun side' => if side' = side then (tables side').insert key value else tables side')
      ((tables side).insert key value) := by
  obtain ⟨m', hinsert, rfl⟩ := FileProvider.within_set (h.handle side) hset
  obtain ⟨rfl, hextends, hread⟩ := MapFile.insert_spec hinsert
  refine ⟨fun side' => ?_, ?_, ?_⟩
  · rw [TwoProviders.provider_replace]
    by_cases hside : side' = side
    · subst hside
      rw [if_pos rfl, if_pos rfl]
      exact (Table.get?_insert _ _ _ _).trans (if_pos rfl)
    · rw [if_neg (Ne.symm hside), if_neg hside]
      exact h.handle side'
  · rw [TwoProviders.disk_replace]
    exact h.housed.extends hextends
  · rw [TwoProviders.disk_replace]
    exact ⟨_, hread, MapFile.decodeTable_encode path _⟩

/-- After any sequence of acknowledged sets each handle has its own assignments, and the file has
those of the handle that wrote last. -/
theorem setAll (h : Shares name path s tables file) {as : List Assignment}
    (hset : TwoProviders.setAll name as s = some s') :
    Shares name path s' (fun side => assigned (tables side) (ofSide side as))
      (match as.getLast? with
        | some a => assigned (tables a.side) (ofSide a.side as)
        | none => file) := by
  induction as generalizing s tables file with
  | nil =>
      obtain rfl := Option.some.inj hset
      exact h
  | cons a as ih =>
      unfold TwoProviders.setAll at hset
      split at hset
      · rename_i p disk hwithin
        have hstep := ih (h.set hwithin) hset
        simp only [assigned_cons] at hstep
        cases has : as.getLast? with
        | none =>
            obtain rfl := List.getLast?_eq_none_iff.mp has
            have hfile : assigned (tables a.side) (ofSide a.side [a]) =
                (tables a.side).insert a.key a.value := by
              simp [ofSide, assigned]
            rw [List.getLast?_singleton]
            simp only [hfile]
            exact hstep
        | some b =>
            rw [List.getLast?_cons, has]
            simp only [has] at hstep
            exact hstep
      · cases hset

end Shares

/-! ### What is kept -/

/-- Every key has the value that it was given last. -/
def Kept (as : List Assignment) (table : Table String Bytes) : Prop :=
  ∀ key value, lastValue key as = some value → table.get? key = some value

/-- After sets through two handles that were all acknowledged, a new provider finds the table from
the opening with the assignments of the handle that wrote last, and no others. So nothing is lost
exactly if that handle agrees on the last value of every key. -/
theorem reopened_of_setAll {dir name : String} {t : Tree} {s s' : TwoProviders}
    {as : List Assignment} (hopen : TwoProviders.openBoth dir name t = some s)
    (hset : TwoProviders.setAll name as s = some s') :
    ∃ opening final : Table String Bytes,
      (∀ side, (s.provider side).opened.get? name =
        some ⟨FileProvider.filePath dir name, opening⟩) ∧
      TwoProviders.reopened dir name s'.disk = .ok ⟨FileProvider.filePath dir name, final⟩ ∧
      final = assigned opening (ofLastWriter as) ∧
      (Kept as final ↔ ∀ key value, lastValue key as = some value →
        (lastValue key (ofLastWriter as)).or (opening.get? key) = some value) := by
  obtain ⟨opening, hshares, hname⟩ := Shares.of_openBoth hopen
  have hafter := hshares.setAll hset
  have hfile : (match as.getLast? with
      | some a => assigned opening (ofSide a.side as)
      | none => opening) = assigned opening (ofLastWriter as) := by
    unfold ofLastWriter
    cases as.getLast? <;> rfl
  obtain ⟨c, hread, hdecode⟩ := hafter.stored
  rw [hfile] at hdecode
  refine ⟨opening, _, hshares.handle, ?_, rfl, ?_⟩
  · unfold TwoProviders.reopened
    rw [FileProvider.outcome_openNamespace hname,
      MapFile.load_of_housed hafter.housed hread hdecode]
  · unfold Kept
    simp only [get?_assigned]

theorem reopened_of_setAll_default :
    let c := StoreSettings.default
    let as : List Assignment := [⟨.left, "a", [1]⟩, ⟨.right, "b", [2]⟩, ⟨.left, "b", [3]⟩]
    ∃ s s' opening, TwoProviders.openBoth c.dataDir c.nameSpace Tree.empty = some s ∧
      TwoProviders.setAll c.nameSpace as s = some s' ∧
      TwoProviders.reopened c.dataDir c.nameSpace s'.disk =
        .ok ⟨FileProvider.filePath c.dataDir c.nameSpace, assigned opening (ofLastWriter as)⟩ := by
  intro c as
  obtain ⟨s, hopen⟩ := Option.isSome_iff_exists.mp (by decide +kernel :
    (TwoProviders.openBoth c.dataDir c.nameSpace Tree.empty).isSome = true)
  obtain ⟨s', hset⟩ := Option.isSome_iff_exists.mp (by decide +kernel :
    ((TwoProviders.openBoth c.dataDir c.nameSpace Tree.empty).bind
      (TwoProviders.setAll c.nameSpace as)).isSome = true)
  rw [hopen, Option.bind_some] at hset
  obtain ⟨opening, final, -, hreopened, rfl, -⟩ := reopened_of_setAll hopen hset
  exact ⟨s, s', opening, hopen, hset, hreopened⟩

/-- With the default settings, one write through each handle is enough to lose a write. -/
theorem writes_lost_by_default :
    ¬ ∀ (as : List Assignment) (s s' : TwoProviders),
      TwoProviders.openBoth StoreSettings.default.dataDir StoreSettings.default.nameSpace
        Tree.empty = some s →
      TwoProviders.setAll StoreSettings.default.nameSpace as s = some s' →
      ∃ m, TwoProviders.reopened StoreSettings.default.dataDir StoreSettings.default.nameSpace
        s'.disk = .ok m ∧ Kept as m.table := by
  intro hkept
  let as : List Assignment := [⟨.left, "all_todos", [91, 93]⟩, ⟨.right, "k", [118]⟩]
  obtain ⟨s, hopen⟩ := Option.isSome_iff_exists.mp (by decide +kernel :
    (TwoProviders.openBoth StoreSettings.default.dataDir StoreSettings.default.nameSpace
      Tree.empty).isSome = true)
  have hlost : ((TwoProviders.openBoth StoreSettings.default.dataDir
      StoreSettings.default.nameSpace Tree.empty).bind fun s =>
        (TwoProviders.setAll StoreSettings.default.nameSpace as s).map fun s' =>
          (TwoProviders.reopened StoreSettings.default.dataDir StoreSettings.default.nameSpace
            s'.disk).toOption.bind fun m => m.table.get? "all_todos") = some none := by
    decide +kernel
  rw [hopen, Option.bind_some, Option.map_eq_some_iff] at hlost
  obtain ⟨s', hset, hnone⟩ := hlost
  obtain ⟨m, hreopened, hm⟩ := hkept as s s' hopen hset
  rw [hreopened] at hnone
  have hvalue := hm "all_todos" [91, 93] rfl
  change m.table.get? "all_todos" = none at hnone
  rw [hvalue] at hnone
  cases hnone

end TodoPromo.Files
