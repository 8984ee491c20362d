import Mathlib.Data.List.TakeWhile
import TodoPromo.Net.SocketAddress

/-! # Readers of parts of an address

What a reader makes of a text with something behind its part, and back: what it took off the front of a
text that it accepted (`Takes`). A text that is accepted as a socket address ends with a colon and the
digits of the port; before that there is no colon, or all stands in brackets (`SocketAddress.exists_parted`). -/

namespace TodoPromo.Net

namespace Reader

variable {α β : Type}

/-! ### Steps -/

theorem bind_some {r : Reader α} {f : α → Reader β} {cs rest : List Char} {a : α}
    (h : r cs = some (a, rest)) : (r >>= f) cs = f a rest := by
  change (r cs).bind (fun p => f p.1 p.2) = _
  rw [h]
  rfl

theorem bind_none {r : Reader α} {f : α → Reader β} {cs : List Char} (h : r cs = none) :
    (r >>= f) cs = none := by
  change (r cs).bind (fun p => f p.1 p.2) = _
  rw [h]
  rfl

theorem bind_eq_some {r : Reader α} {f : α → Reader β} {cs rest : List Char} {b : β} :
    (r >>= f) cs = some (b, rest) ↔ ∃ a mid, r cs = some (a, mid) ∧ f a mid = some (b, rest) := by
  change (r cs).bind (fun p => f p.1 p.2) = _ ↔ _
  rw [Option.bind_eq_some_iff, Prod.exists]

theorem char_eq (c d : Char) (cs : List Char) :
    char c (d :: cs) = if d = c then some ((), cs) else none := by
  change (if d = c then set cs else failure : Reader Unit) (d :: cs) = _
  split
  · rfl
  · rfl

theorem char_cons (c : Char) (cs : List Char) : char c (c :: cs) = some ((), cs) := by
  rw [char_eq, if_pos rfl]

theorem char_ne {c d : Char} (h : d ≠ c) (cs : List Char) : char c (d :: cs) = none := by
  rw [char_eq, if_neg h]

theorem char_eq_some {c : Char} {cs rest : List Char} {u : Unit} (h : char c cs = some (u, rest)) :
    cs = c :: rest := by
  cases cs with
  | nil => cases h
  | cons d ds =>
      by_cases hd : d = c
      · rw [hd, char_cons] at h
        cases h
        rw [hd]
      · rw [char_ne hd] at h
        cases h

theorem optional_some {r : Reader α} {cs rest : List Char} {a : α} (h : r cs = some (a, rest)) :
    optional r cs = some (some a, rest) := by
  unfold optional
  rw [h]

theorem optional_none {r : Reader α} {cs : List Char} (h : r cs = none) :
    optional r cs = some (none, cs) := by
  unfold optional
  rw [h]

/-! ### Digits -/

/-- A digit in this base. -/
def IsDigit (base : Nat) (c : Char) : Prop := (digitValue? base c).isSome = true

instance (base : Nat) : DecidablePred (IsDigit base) := fun c =>
  inferInstanceAs (Decidable ((digitValue? base c).isSome = true))

/-- The number that digits spell. -/
def valueOf (base : Nat) (ds : List Char) : Nat :=
  ds.foldl (fun n c => base * n + (digitValue? base c).getD 0) 0

/-- Too many digits, or a zero in front where it is refused. -/
def isRefused (width : Option Nat) (zeros : Bool) (ds : List Char) : Bool :=
  ds.isEmpty || (match width with
    | some w => decide (w < ds.length)
    | none => false) || (!zeros && ds.head? == some '0' && ds.length != 1)

theorem number_eq (base limit : Nat) (width : Option Nat) (zeros : Bool) (cs : List Char) :
    number base limit width zeros cs =
      let ds := cs.takeWhile fun c => (digitValue? base c).isSome
      if isRefused width zeros ds then none
      else if valueOf base ds < limit then some (valueOf base ds, cs.drop ds.length)
      else none := by
  -- a number that is refused is followed by the same check as one that is not
  have hnumber : number base limit width zeros cs =
      let ds := cs.takeWhile fun c => (digitValue? base c).isSome
      let checked : Reader Nat := if valueOf base ds < limit then pure (valueOf base ds) else failure
      (if isRefused width zeros ds = true then failure >>= fun _ => checked else checked)
        (cs.drop ds.length) := rfl
  rw [hnumber]
  dsimp only
  generalize cs.takeWhile _ = ds
  split
  · rfl
  · split
    · rfl
    · rfl

/-- The text does not go on with a digit. -/
def NoDigit (base : Nat) (cs : List Char) : Prop := ∀ c ∈ cs.head?, ¬ IsDigit base c

theorem noDigit_cons {base : Nat} {c : Char} (h : ¬ IsDigit base c) (cs : List Char) :
    NoDigit base (c :: cs) := by
  intro d hd
  obtain rfl := Option.some.inj hd
  exact h

theorem takeWhile_noDigit {base : Nat} {cs : List Char} (h : NoDigit base cs) :
    (cs.takeWhile fun c => (digitValue? base c).isSome) = [] := by
  cases cs with
  | nil => rfl
  | cons c cs => exact List.takeWhile_cons_of_neg (h c rfl)

theorem IsDigit.hexadecimal {c : Char} (h : IsDigit 10 c) : IsDigit 16 c := by
  have hmono : ∀ v? : Option Nat, (v?.filter (· < 10)).isSome = true → (v?.filter (· < 16)).isSome = true := by
    intro v?
    cases v? with
    | none => simp
    | some v =>
        simp only [Option.isSome_filter, Option.any_some, decide_eq_true_eq]
        omega
  exact hmono _ h

/-- Digits end where no digit follows. -/
theorem digits_unique {base : Nat} {ds es rest rest' : List Char} (hds : ∀ c ∈ ds, IsDigit base c)
    (hrest : NoDigit base rest) (hes : ∀ c ∈ es, IsDigit base c) (hrest' : NoDigit base rest')
    (h : ds ++ rest = es ++ rest') : rest = rest' := by
  have htake := congrArg (List.takeWhile fun c => (digitValue? base c).isSome) h
  rw [List.takeWhile_append_of_pos hds, List.takeWhile_append_of_pos hes, takeWhile_noDigit hrest,
    takeWhile_noDigit hrest', List.append_nil, List.append_nil] at htake
  rw [htake] at h
  exact List.append_cancel_left h

/-- A number is read from its digits, if no digit follows. -/
theorem number_append {base : Nat} (limit : Nat) {width : Option Nat} {zeros : Bool} {ds rest : List Char}
    (hds : ∀ c ∈ ds, IsDigit base c) (hrest : NoDigit base rest)
    (hkept : isRefused width zeros ds = false) (hlimit : valueOf base ds < limit) :
    number base limit width zeros (ds ++ rest) = some (valueOf base ds, rest) := by
  rw [number_eq, List.takeWhile_append_of_pos hds, takeWhile_noDigit hrest, List.append_nil]
  dsimp only
  rw [hkept, if_neg Bool.false_ne_true, if_pos hlimit, List.drop_left' rfl]

/-- Where no digit stands there is no number. -/
theorem number_noDigit {base : Nat} {cs : List Char} (h : NoDigit base cs) (limit : Nat)
    (width : Option Nat) (zeros : Bool) : number base limit width zeros cs = none := by
  rw [number_eq, takeWhile_noDigit h]
  rfl

/-- What a number was read from. -/
theorem number_eq_some {base limit : Nat} {width : Option Nat} {zeros : Bool} {cs rest : List Char} {n : Nat}
    (h : number base limit width zeros cs = some (n, rest)) :
    ∃ ds, cs = ds ++ rest ∧ (∀ c ∈ ds, IsDigit base c) ∧ n = valueOf base ds := by
  let isDigit := fun c => (digitValue? base c).isSome
  have hsplit : cs.takeWhile isDigit ++ cs.dropWhile isDigit = cs := List.takeWhile_append_dropWhile
  have hdrop : cs.drop (cs.takeWhile isDigit).length = cs.dropWhile isDigit := by
    calc cs.drop (cs.takeWhile isDigit).length
        = (cs.takeWhile isDigit ++ cs.dropWhile isDigit).drop (cs.takeWhile isDigit).length := by rw [hsplit]
      _ = cs.dropWhile isDigit := List.drop_left' rfl
  rw [number_eq] at h
  dsimp only at h
  split at h
  · cases h
  · split at h
    · obtain ⟨rfl, rfl⟩ := Prod.mk.inj (Option.some.inj h)
      exact ⟨cs.takeWhile isDigit, by rw [hdrop, hsplit], fun c hc => List.mem_takeWhile_imp (p := isDigit) hc, rfl⟩
    · cases h

/-! ### What is taken off the front -/

/-- What the reader takes off the front of a text that it accepts consists of such characters. -/
def Takes (p : Char → Prop) (r : Reader α) : Prop :=
  ∀ cs a rest, r cs = some (a, rest) → ∃ front, cs = front ++ rest ∧ ∀ c ∈ front, p c

section
variable {p : Char → Prop}

theorem takes_pure (a : α) : Takes p (pure a) := by
  intro cs b rest h
  cases h
  exact ⟨[], rfl, by simp⟩

theorem takes_failure : Takes p (failure : Reader α) :=
  fun _ _ _ h => nomatch h

theorem Takes.bind {r : Reader α} {f : α → Reader β} (hr : Takes p r) (hf : ∀ a, Takes p (f a)) :
    Takes p (r >>= f) := by
  intro cs b rest h
  obtain ⟨a, mid, ha, hb⟩ := bind_eq_some.mp h
  obtain ⟨front, rfl, hfront⟩ := hr _ _ _ ha
  obtain ⟨front', rfl, hfront'⟩ := hf a _ _ _ hb
  exact ⟨front ++ front', (List.append_assoc _ _ _).symm, List.forall_mem_append.mpr ⟨hfront, hfront'⟩⟩

theorem Takes.optional {r : Reader α} (hr : Takes p r) : Takes p (optional r) := by
  intro cs a? rest h
  cases hcs : r cs with
  | none =>
      rw [optional_none hcs] at h
      cases h
      exact ⟨[], rfl, by simp⟩
  | some x =>
      obtain ⟨a, rest'⟩ := x
      rw [optional_some hcs] at h
      cases h
      exact hr _ _ _ hcs

theorem takes_char {c : Char} (h : p c) : Takes p (char c) := by
  intro cs u rest hread
  exact ⟨[c], char_eq_some hread, by simpa using h⟩

theorem takes_number {base limit : Nat} {width : Option Nat} {zeros : Bool} (h : ∀ c, IsDigit base c → p c) :
    Takes p (number base limit width zeros) := by
  intro cs n rest hread
  obtain ⟨ds, hcs, hds, -⟩ := number_eq_some hread
  exact ⟨ds, hcs, fun c hc => h c (hds c hc)⟩

theorem takes_ipv4 (hdigit : ∀ c, IsDigit 10 c → p c) (hpoint : p '.') : Takes p ipv4 := by
  have hoctet : Takes p octet := (takes_number hdigit).bind fun _ => takes_pure _
  exact hoctet.bind fun _ => (takes_char hpoint).bind fun _ => hoctet.bind fun _ =>
    (takes_char hpoint).bind fun _ => hoctet.bind fun _ => (takes_char hpoint).bind fun _ =>
      hoctet.bind fun _ => takes_pure _

theorem Takes.afterColon {r : Reader α} (hcolon : p ':') (h : Takes p r) (first : Bool) :
    Takes p (afterColon first r) := by
  cases first with
  | true => exact h
  | false => exact (takes_char hcolon).bind fun _ => h

/-- What follows the attempt to read the last two groups as four numbers. -/
def afterEmbedded (first : Bool) (room : Nat) :
    Option (UInt8 × UInt8 × UInt8 × UInt8) → Reader (List UInt16 × Bool)
  | some (a, b, c, d) => pure ([join a b, join c d], true)
  | none => do
    match ← optional (afterColon first (number 16 UInt16.size (some 4) true)) with
    | none => pure ([], false)
    | some g =>
      let (gs, v4) ← groups false room
      pure (UInt16.ofNat g :: gs, v4)

theorem groups_succ (first : Bool) (room : Nat) : groups first (room + 1) =
    (if 0 < room then optional (afterColon first ipv4) else pure none) >>= afterEmbedded first room := by
  rw [groups]
  split
  · rfl
  · rfl

section
variable (hdigit : ∀ c, IsDigit 16 c → p c) (hcolon : p ':') (hpoint : p '.')
include hdigit hcolon hpoint

/-- By induction on the groups that there is room for. -/
theorem takes_groups (first : Bool) (room : Nat) : Takes p (groups first room) := by
  have hipv4 : Takes p ipv4 := takes_ipv4 (fun c hc => hdigit c hc.hexadecimal) hpoint
  have hgroup : Takes p (number 16 UInt16.size (some 4) true) := takes_number hdigit
  induction room generalizing first with
  | zero => exact takes_pure _
  | succ room ih =>
      rw [groups_succ]
      refine Takes.bind ?_ fun embedded => ?_
      · split
        · exact (hipv4.afterColon hcolon first).optional
        · exact takes_pure none
      · cases embedded with
        | some x => exact takes_pure _
        | none =>
            refine (hgroup.afterColon hcolon first).optional.bind fun g? => ?_
            cases g? with
            | none => exact takes_pure _
            | some g => exact (ih false).bind fun _ => takes_pure _

theorem takes_ipv6 : Takes p ipv6 := by
  have hgroups : ∀ room, Takes p (groups true room) := takes_groups hdigit hcolon hpoint true
  refine (hgroups 8).bind fun x => ?_
  obtain ⟨front, v4⟩ := x
  dsimp only
  have hback : Takes p (do
      char ':'
      char ':'
      let (back, _) ← groups true (7 - front.length)
      return front ++ List.replicate (8 - front.length - back.length) 0 ++ back) :=
    (takes_char hcolon).bind fun _ => (takes_char hcolon).bind fun _ =>
      (hgroups _).bind fun _ => takes_pure _
  split
  · exact takes_pure front
  · cases v4 with
    | true => exact takes_failure.bind fun _ => hback
    | false => exact hback

end

theorem takes_scope (hdigit : ∀ c, IsDigit 10 c → p c) (hpercent : p '%') : Takes p scope := by
  have hnumber : Takes p (do
      char '%'
      number 10 UInt32.size none true) :=
    (takes_char hpercent).bind fun _ => takes_number hdigit
  exact hnumber.optional.bind fun _ => takes_pure _

end

/-! ### Texts that are accepted -/

theorem port_eq_some {cs rest : List Char} {p : UInt16} (h : port cs = some (p, rest)) :
    ∃ ds, cs = ':' :: (ds ++ rest) ∧ (∀ c ∈ ds, IsDigit 10 c) ∧ p = UInt16.ofNat (valueOf 10 ds) := by
  obtain ⟨_, mid, hcolon, h⟩ := bind_eq_some.mp h
  obtain ⟨n, rest', hnumber, h⟩ := bind_eq_some.mp h
  obtain ⟨ds, rfl, hds, rfl⟩ := number_eq_some hnumber
  obtain ⟨rfl, rfl⟩ := Prod.mk.inj (Option.some.inj h)
  exact ⟨ds, char_eq_some hcolon, hds, rfl⟩

/-- The parts of the text of a socket address: what stands before the port has no colon in it, or stands in
brackets. -/
structure Parted (cs : List Char) (body ds : List Char) : Prop where
  eq : cs = body ++ ':' :: ds
  digits : ∀ c ∈ ds, IsDigit 10 c
  closed : ':' ∉ body ∨ ∃ inside, body = '[' :: inside ++ [']']

/-- A text ends with a colon and digits in one way only. -/
theorem Parted.unique {cs body ds body' ds' : List Char} (h : Parted cs body ds)
    (hcs : cs = body' ++ ':' :: ds') (hds' : ∀ c ∈ ds', IsDigit 10 c) : body = body' ∧ ds = ds' := by
  have hsame := h.eq.symm.trans hcs
  have hreverse := congrArg List.reverse hsame
  -- from behind, the digits of the port come first, and a colon ends them
  simp only [List.reverse_append, List.reverse_cons, List.append_assoc, List.singleton_append] at hreverse
  have hrest := digits_unique (fun c hc => h.digits c (List.mem_reverse.mp hc))
    (noDigit_cons (by decide) _) (fun c hc => hds' c (List.mem_reverse.mp hc))
    (noDigit_cons (by decide) _) hreverse
  obtain rfl : body = body' := List.reverse_inj.mp (List.cons.inj hrest).2
  exact ⟨rfl, (List.cons.inj (List.append_cancel_left hsame)).2⟩

theorem socketV4_eq_some {cs : List Char} {a : SocketAddress} (h : socketV4 cs = some (a, [])) :
    ∃ body ds, Parted cs body ds ∧ a.port = UInt16.ofNat (valueOf 10 ds) := by
  have htakes : Takes (· ≠ ':') ipv4 := by
    refine takes_ipv4 (fun c hc => ?_) (by decide)
    rintro rfl
    cases hc
  obtain ⟨⟨x, y, z, w⟩, afterIp, hipv4, h⟩ := bind_eq_some.mp h
  obtain ⟨p, rest, hport, h⟩ := bind_eq_some.mp h
  obtain ⟨body, hbody, hcolon⟩ := htakes _ _ _ hipv4
  obtain ⟨ds, hds, hdigits, rfl⟩ := port_eq_some hport
  obtain ⟨rfl, rfl⟩ := Prod.mk.inj (Option.some.inj h)
  refine ⟨body, ds, ⟨?_, hdigits, .inl fun hmem => hcolon ':' hmem rfl⟩, rfl⟩
  rw [hbody, hds, List.append_nil]

theorem socketV6_eq_some {cs : List Char} {a : SocketAddress} (h : socketV6 cs = some (a, [])) :
    ∃ body ds, Parted cs body ds ∧ a.port = UInt16.ofNat (valueOf 10 ds) := by
  obtain ⟨_, afterOpen, hopen, h⟩ := bind_eq_some.mp h
  obtain ⟨gs, afterIp, hipv6, h⟩ := bind_eq_some.mp h
  obtain ⟨zone, afterZone, hscope, h⟩ := bind_eq_some.mp h
  obtain ⟨_, afterClose, hclose, h⟩ := bind_eq_some.mp h
  obtain ⟨p, rest, hport, h⟩ := bind_eq_some.mp h
  obtain ⟨ip, hip, -⟩ := takes_ipv6 (p := fun _ => True) (fun _ _ => trivial) trivial trivial _ _ _ hipv6
  obtain ⟨scope, hscope, -⟩ := takes_scope (p := fun _ => True) (fun _ _ => trivial) trivial _ _ _ hscope
  obtain ⟨ds, hds, hdigits, rfl⟩ := port_eq_some hport
  obtain ⟨rfl, rfl⟩ := Prod.mk.inj (Option.some.inj h)
  refine ⟨'[' :: (ip ++ scope) ++ [']'], ds, ⟨?_, hdigits, .inr ⟨_, rfl⟩⟩, rfl⟩
  rw [char_eq_some hopen, hip, hscope, char_eq_some hclose, hds]
  simp

end Reader

namespace SocketAddress

variable {s : String} {a : SocketAddress}

/-- A text is accepted if one of the two readers takes all of it; the second one is only asked where the
first one refuses. -/
theorem parse?_eq_some_iff : parse? s = some a ↔
    (Reader.socketV4 s.toList <|> Reader.socketV6 s.toList) = some (a, []) := by
  have heither : (Reader.socketV4 <|> Reader.socketV6) s.toList =
      (Reader.socketV4 s.toList <|> Reader.socketV6 s.toList) := rfl
  unfold parse?
  rw [heither]
  split
  · rename_i heq
    rw [heq]
    simp
  · rename_i hother
    constructor
    · exact fun h => nomatch h
    · exact fun h => (hother a h).elim

/-- What is accepted ends with a colon and the digits of the port. -/
theorem exists_parted (h : parse? s = some a) :
    ∃ body ds, Reader.Parted s.toList body ds ∧ a.port = UInt16.ofNat (Reader.valueOf 10 ds) := by
  rw [parse?_eq_some_iff] at h
  cases h4 : Reader.socketV4 s.toList with
  | none =>
      rw [h4] at h
      exact Reader.socketV6_eq_some h
  | some x =>
      rw [h4] at h
      cases h
      exact Reader.socketV4_eq_some h4

end SocketAddress
end TodoPromo.Net
