import TodoPromo.Proofs.Net.Readers

/-! # Addresses in their standard form

Four numbers with points between them, or groups of hexadecimal digits in small letters with colons between
them. Of the longest rows of zero groups the first one is left out for a double colon, unless it is a single
group, and an address that stands for one of the fourth version shows that one. Written so, an address with
a port is read back (`SocketAddress.parse?_v4`, `SocketAddress.parse?_v6`). -/

namespace TodoPromo.Net

/-! ### The standard form -/

namespace IpAddress

/-- Numbers with points between them. -/
def writeV4 (a b c d : UInt8) : List Char :=
  let octet (b : UInt8) := Nat.toDigits 10 b.toNat
  octet a ++ '.' :: (octet b ++ '.' :: (octet c ++ '.' :: octet d))

/-- Groups with a colon in front of each, except in front of the first of all. -/
def writeGroups (first : Bool) : List UInt16 → List Char
  | [] => []
  | g :: gs => (if first then [] else [':']) ++ (Nat.toDigits 16 g.toNat ++ writeGroups false gs)

/-- The longest row of at least two zeros, the first one of these: where it begins, and its length. -/
def zeroRow? (gs : List UInt16) : Option (Nat × Nat) :=
  ((List.range 9).reverse.flatMap fun n => (List.range 9).map (·, n)).find? fun (i, n) =>
    2 ≤ n && (gs.drop i).take n == List.replicate n 0

def writeV6 : List UInt16 → List Char
  | [0, 0, 0, 0, 0, 0xFFFF, high, low] =>
    [':', ':', 'f', 'f', 'f', 'f', ':'] ++
      writeV4 (high >>> 8).toUInt8 high.toUInt8 (low >>> 8).toUInt8 low.toUInt8
  | gs =>
    match zeroRow? gs with
    | some (i, n) => writeGroups true (gs.take i) ++ ':' :: ':' :: writeGroups true (gs.drop (i + n))
    | none => writeGroups true gs

/-- The standard form of an address. -/
def write : IpAddress → String
  | v4 a b c d => String.ofList (writeV4 a b c d)
  | v6 gs => String.ofList (writeV6 gs)

/-- The standard form in brackets. -/
def bracketed (a : IpAddress) : String := "[" ++ a.write ++ "]"

example : (v6 [0x2001, 0xDB8, 0, 0, 1, 0, 0, 0xFF]).write = "2001:db8::1:0:0:ff" := by decide +kernel

end IpAddress

open IpAddress

/-! ### Digits -/

namespace Reader

theorem digitValue?_digitChar : ∀ base ≤ 16, ∀ d < base, digitValue? base d.digitChar = some d := by
  decide +kernel

theorem digits_toDigits (base : Nat) (hlow : 1 < base) (hhigh : base ≤ 16) (n : Nat) :
    (∀ c ∈ Nat.toDigits base n, IsDigit base c) ∧ valueOf base (Nat.toDigits base n) = n := by
  have hsnoc : ∀ ds c, valueOf base (ds ++ [c]) =
      base * valueOf base ds + (digitValue? base c).getD 0 := by
    intro ds c
    unfold valueOf
    rw [List.foldl_append]
    rfl
  induction n using Nat.strongRecOn with
  | ind n ih =>
      have hdigit := digitValue?_digitChar base hhigh (n % base) (Nat.mod_lt n (by omega))
      have hlast : ∀ c ∈ [(n % base).digitChar], IsDigit base c := by
        intro c hc
        rw [List.mem_singleton.mp hc]
        exact Option.isSome_of_eq_some hdigit
      rcases Nat.lt_or_ge n base with hlt | hge
      · rw [Nat.mod_eq_of_lt hlt] at hlast hdigit
        rw [Nat.toDigits_of_lt_base hlt]
        refine ⟨hlast, ?_⟩
        rw [← List.nil_append [n.digitChar], hsnoc, hdigit]
        exact Nat.zero_add n
      · obtain ⟨hdigits, hvalue⟩ := ih (n / base) (Nat.div_lt_self (by omega) hlow)
        rw [Nat.toDigits_of_base_le hlow hge]
        refine ⟨List.forall_mem_append.mpr ⟨hdigits, hlast⟩, ?_⟩
        rw [hsnoc, hvalue, hdigit]
        exact Nat.div_add_mod n base

section
variable {rest : List Char}

theorem octet_append (b : UInt8) (hrest : NoDigit 10 rest) :
    octet (Nat.toDigits 10 b.toNat ++ rest) = some (b, rest) := by
  have hshort : ∀ n < 256, isRefused (some 3) false (Nat.toDigits 10 n) = false := by decide +kernel
  obtain ⟨hdigits, hvalue⟩ := digits_toDigits 10 (by decide) (by decide) b.toNat
  have hnumber := number_append UInt8.size hdigits hrest (hshort b.toNat b.toNat_lt)
    (by rw [hvalue]; exact b.toNat_lt)
  rw [octet, bind_some hnumber, hvalue, UInt8.ofNat_toNat]
  rfl

theorem group_append (g : UInt16) (hrest : NoDigit 16 rest) :
    number 16 UInt16.size (some 4) true (Nat.toDigits 16 g.toNat ++ rest) = some (g.toNat, rest) := by
  obtain ⟨hdigits, hvalue⟩ := digits_toDigits 16 (by decide) (by decide) g.toNat
  have hlength : (Nat.toDigits 16 g.toNat).length ≤ 4 :=
    (Nat.length_toDigits_le_iff (by decide) (by decide)).mpr g.toNat_lt
  have hkept : isRefused (some 4) true (Nat.toDigits 16 g.toNat) = false := by
    simp [isRefused, Nat.toDigits_ne_nil, hlength]
  have hnumber := number_append UInt16.size hdigits hrest hkept (by rw [hvalue]; exact g.toNat_lt)
  rwa [hvalue] at hnumber

theorem port_toDigits (p : UInt16) : port (':' :: Nat.toDigits 10 p.toNat) = some (p, []) := by
  obtain ⟨hdigits, hvalue⟩ := digits_toDigits 10 (by decide) (by decide) p.toNat
  have hkept : isRefused none true (Nat.toDigits 10 p.toNat) = false := by
    simp [isRefused, Nat.toDigits_ne_nil]
  have hend : NoDigit 10 [] := fun _ h => nomatch h
  have hnumber := number_append UInt16.size hdigits hend hkept (by rw [hvalue]; exact p.toNat_lt)
  rw [List.append_nil] at hnumber
  rw [port, bind_some (char_cons _ _), bind_some hnumber, hvalue, UInt16.ofNat_toNat]
  rfl

/-! ### Four numbers -/

theorem ipv4_append (a b c d : UInt8) (hrest : NoDigit 10 rest) :
    ipv4 (writeV4 a b c d ++ rest) = some ((a, b, c, d), rest) := by
  have hpoint : ∀ cs, NoDigit 10 ('.' :: cs) := noDigit_cons (by decide)
  unfold writeV4
  dsimp only
  simp only [List.append_assoc, List.cons_append]
  rw [ipv4, bind_some (octet_append a (hpoint _)), bind_some (char_cons _ _),
    bind_some (octet_append b (hpoint _)), bind_some (char_cons _ _),
    bind_some (octet_append c (hpoint _)), bind_some (char_cons _ _), bind_some (octet_append d hrest)]
  rfl

end

/-! ### Groups -/

/-- Where groups go on or end. -/
def BehindGroup (cs : List Char) : Prop := cs.head? = some ':' ∨ cs.head? = some ']'

/-- Where no more groups follow: at a double colon, or at the bracket behind all of them. -/
def BehindGroups (cs : List Char) : Prop := (∃ rest, cs = ':' :: ':' :: rest) ∨ ∃ rest, cs = ']' :: rest

theorem BehindGroups.group {cs : List Char} (h : BehindGroups cs) : BehindGroup cs := by
  obtain ⟨rest, rfl⟩ | ⟨rest, rfl⟩ := h
  · exact .inl rfl
  · exact .inr rfl

theorem BehindGroup.noDigit {cs : List Char} (h : BehindGroup cs) : NoDigit 16 cs := by
  intro c hc
  obtain hcolon | hbracket := h
  · rw [hcolon] at hc
    cases hc
    decide
  · rw [hbracket] at hc
    cases hc
    decide

theorem ipv4_noDigit {cs : List Char} (h : NoDigit 16 cs) : ipv4 cs = none := by
  have hdecimal : NoDigit 10 cs := fun c hc hdigit => h c hc hdigit.hexadecimal
  have hoctet : octet cs = none := bind_none (number_noDigit hdecimal _ _ _)
  exact bind_none hoctet

/-- A group is no row of four numbers, since no point follows. -/
theorem ipv4_group (g : UInt16) {rest : List Char} (hrest : BehindGroup rest) :
    ipv4 (Nat.toDigits 16 g.toNat ++ rest) = none := by
  cases hread : ipv4 (Nat.toDigits 16 g.toNat ++ rest) with
  | none => rfl
  | some x =>
      obtain ⟨a, afterOctet, hoctet, h⟩ := bind_eq_some.mp hread
      obtain ⟨_, afterPoint, hpoint, -⟩ := bind_eq_some.mp h
      obtain ⟨n, afterNumber, hnumber, hn⟩ := bind_eq_some.mp hoctet
      obtain ⟨ds, hds, hdigits, -⟩ := number_eq_some hnumber
      cases hn
      -- the digits in front of a point would end where the group ends
      have hrest' := digits_unique (digits_toDigits 16 (by decide) (by decide) g.toNat).1 hrest.noDigit
        (fun c hc => (hdigits c hc).hexadecimal)
        (by rw [char_eq_some hpoint]; exact noDigit_cons (by decide) _) hds
      rw [hrest', char_eq_some hpoint] at hrest
      obtain hcolon | hbracket := hrest
      · cases hcolon
      · cases hbracket

section
variable {α : Type} {r : Reader α} {cs rest : List Char}

theorem afterColon_append (first : Bool) (r : Reader α) (cs : List Char) :
    afterColon first r ((if first then [] else [':']) ++ cs) = r cs := by
  cases first with
  | true => rfl
  | false => exact bind_some (char_cons ':' cs)

theorem afterColon_behindGroups (hr : ∀ cs, NoDigit 16 cs → r cs = none) (h : BehindGroups cs)
    (first : Bool) : afterColon first r cs = none := by
  cases first with
  | true => exact hr cs h.group.noDigit
  | false =>
      obtain ⟨rest, rfl⟩ | ⟨rest, rfl⟩ := h
      · exact (bind_some (char_cons _ _)).trans (hr _ (noDigit_cons (by decide) _))
      · exact bind_none (char_ne (by decide) _)

theorem embedded_none (room : Nat) {first : Bool} (h : afterColon first ipv4 cs = none) :
    (if 0 < room then optional (afterColon first ipv4) else pure none) cs = some (none, cs) := by
  split
  · exact optional_none h
  · rfl

theorem groups_behindGroups (first : Bool) (room : Nat) (h : BehindGroups cs) :
    groups first room cs = some (([], false), cs) := by
  cases room with
  | zero => rfl
  | succ room =>
      have hembedded := afterColon_behindGroups (fun _ => ipv4_noDigit) h first
      have hgroup := afterColon_behindGroups
        (fun _ hcs => number_noDigit hcs UInt16.size (some 4) true) h first
      rw [groups_succ, bind_some (embedded_none room hembedded), afterEmbedded,
        bind_some (optional_none hgroup)]
      rfl

theorem groups_cons (first : Bool) {room : Nat} {g : UInt16} {gs : List UInt16} {v4 : Bool}
    (hcs : BehindGroup cs) (h : groups false room cs = some ((gs, v4), rest)) :
    groups first (room + 1) ((if first then [] else [':']) ++ (Nat.toDigits 16 g.toNat ++ cs)) =
      some ((g :: gs, v4), rest) := by
  have hembedded := (afterColon_append first ipv4 _).trans (ipv4_group g hcs)
  have hgroup := (afterColon_append first _ _).trans (group_append g hcs.noDigit)
  rw [groups_succ, bind_some (embedded_none room hembedded), afterEmbedded,
    bind_some (optional_some hgroup)]
  dsimp only
  rw [bind_some h, UInt16.ofNat_toNat]
  rfl

end

theorem behindGroup_writeGroups (gs : List UInt16) {tail : List Char} (h : BehindGroups tail) :
    BehindGroup (writeGroups false gs ++ tail) := by
  cases gs with
  | nil => exact h.group
  | cons g gs => exact .inl rfl

/-- Groups are read to their end, as far as there is room for them: by induction on the groups, of which all
but the first one follow a colon. -/
theorem groups_writeGroups (gs : List UInt16) {room : Nat} (hroom : gs.length ≤ room) (first : Bool)
    {tail : List Char} (h : BehindGroups tail) :
    groups first room (writeGroups first gs ++ tail) = some ((gs, false), tail) := by
  induction gs generalizing first room with
  | nil => exact groups_behindGroups first room h
  | cons g gs ih =>
      obtain ⟨room, rfl⟩ : ∃ n, room = n + 1 := ⟨room - 1, by simp at hroom; omega⟩
      have hrest := ih (by simpa using hroom) false
      rw [writeGroups, List.append_assoc, List.append_assoc]
      exact groups_cons first (behindGroup_writeGroups gs h) hrest

/-! ### Addresses of the sixth version -/

theorem ipv6_full {gs : List UInt16} (hlength : gs.length = 8) (rest : List Char) :
    ipv6 (writeGroups true gs ++ ']' :: rest) = some (gs, ']' :: rest) := by
  have hgroups := groups_writeGroups gs hlength.le true (.inr ⟨rest, rfl⟩)
  rw [ipv6, bind_some hgroups]
  dsimp only
  rw [if_pos hlength]
  rfl

/-- Behind a double colon there may be more groups, and there are zeros for those that are missing. -/
theorem ipv6_doubleColon (front : List UInt16) {back : List UInt16} {v4 : Bool} {cs rest : List Char}
    (hfront : front.length < 8) (hback : groups true (7 - front.length) cs = some ((back, v4), rest)) :
    ipv6 (writeGroups true front ++ ':' :: ':' :: cs) =
      some (front ++ List.replicate (8 - front.length - back.length) 0 ++ back, rest) := by
  have hgroups := groups_writeGroups front hfront.le true (.inl ⟨cs, rfl⟩)
  rw [ipv6, bind_some hgroups]
  dsimp only
  rw [if_neg (by omega), if_neg Bool.false_ne_true, bind_some (char_cons _ _), bind_some (char_cons _ _),
    bind_some hback]
  rfl

theorem join_bytes (g : UInt16) : join (g >>> 8).toUInt8 g.toUInt8 = g := by
  apply UInt16.toNat_inj.mp
  have hg : g.toNat < 2 ^ 16 := g.toNat_lt
  have height : UInt16.toNat 8 % 16 = 8 := rfl
  have hhigh : g.toNat >>> 8 % 2 ^ 8 = g.toNat / 256 := by
    rw [Nat.shiftRight_eq_div_pow]
    omega
  have hshifted : (g.toNat / 256) <<< 8 % 2 ^ 16 = (g.toNat / 256) <<< 8 := by
    rw [Nat.shiftLeft_eq]
    omega
  have hor := Nat.shiftLeft_add_eq_or_of_lt (show g.toNat % 2 ^ 8 < 2 ^ 8 by omega) (g.toNat / 256)
  simp only [join, UInt16.toNat_or, UInt16.toNat_shiftLeft, UInt16.toNat_shiftRight, UInt8.toNat_toUInt16,
    UInt16.toNat_toUInt8, height, hhigh, hshifted]
  rw [← hor, Nat.shiftLeft_eq]
  omega

/-- The last two groups are written as four numbers. -/
theorem groups_mapped (high low : UInt16) (rest : List Char) :
    groups true 7 (['f', 'f', 'f', 'f', ':'] ++
        (writeV4 (high >>> 8).toUInt8 high.toUInt8 (low >>> 8).toUInt8 low.toUInt8 ++ ']' :: rest)) =
      some (([0xFFFF, high, low], true), ']' :: rest) := by
  have hbracket : NoDigit 10 (']' :: rest) := noDigit_cons (by decide) rest
  have hipv4 := ipv4_append (high >>> 8).toUInt8 high.toUInt8 (low >>> 8).toUInt8 low.toUInt8 hbracket
  generalize writeV4 _ _ _ _ ++ ']' :: rest = cs at hipv4 ⊢
  have hlast : groups false 6 (':' :: cs) = some (([high, low], true), ']' :: rest) := by
    have hembedded : afterColon false ipv4 (':' :: cs) = _ := (afterColon_append false ipv4 cs).trans hipv4
    rw [groups_succ, if_pos (by decide), bind_some (optional_some hembedded), afterEmbedded, join_bytes,
      join_bytes]
    rfl
  exact groups_cons true (g := 0xFFFF) (.inl rfl) hlast

end Reader

theorem IpAddress.zeroRow?_eq_some {gs : List UInt16} {i n : Nat} (h : zeroRow? gs = some (i, n)) :
    0 < n ∧ gs = gs.take i ++ List.replicate n 0 ++ gs.drop (i + n) := by
  have hrow := List.find?_some h
  simp only [Bool.and_eq_true, decide_eq_true_eq, beq_iff_eq] at hrow
  refine ⟨by omega, ?_⟩
  rw [← hrow.2, List.append_assoc, ← List.drop_drop, List.take_append_drop, List.take_append_drop]

theorem Reader.ipv6_writeV6 {gs : List UInt16} (hlength : gs.length = 8) (rest : List Char) :
    ipv6 (writeV6 gs ++ ']' :: rest) = some (gs, ']' :: rest) := by
  unfold writeV6
  split
  · -- the address stands for one of the fourth version
    rename_i high low
    rw [List.append_assoc]
    exact ipv6_doubleColon [] (by decide) (groups_mapped high low rest)
  · split
    · rename_i i n hrow
      obtain ⟨hpos, hgs⟩ := zeroRow?_eq_some hrow
      have hlengths := congrArg List.length hgs
      rw [List.length_append, List.length_append, List.length_replicate] at hlengths
      have hroom : (gs.drop (i + n)).length ≤ 7 - (gs.take i).length := by omega
      have hback := groups_writeGroups (gs.drop (i + n)) hroom true (.inr ⟨rest, rfl⟩)
      have hipv6 := ipv6_doubleColon (gs.take i) (by omega) hback
      have hzeros : 8 - (gs.take i).length - (gs.drop (i + n)).length = n := by omega
      rw [hzeros, ← hgs] at hipv6
      rw [List.append_assoc]
      exact hipv6
    · exact ipv6_full hlength rest

namespace SocketAddress

theorem toList_hostPort (host : String) (p : UInt16) :
    s!"{host}:{p}".toList = host.toList ++ ':' :: Nat.toDigits 10 p.toNat := by
  have hport : (toString p).toList = Nat.toDigits 10 p.toNat := Nat.toList_repr
  simp only [String.toList_append]
  rw [hport, List.append_assoc]
  rfl

theorem parse?_v4 (a b c d : UInt8) (p : UInt16) :
    parse? s!"{(IpAddress.v4 a b c d).write}:{p}" = some ⟨.v4 a b c d, 0, p⟩ := by
  have hcolon : Reader.NoDigit 10 (':' :: Nat.toDigits 10 p.toNat) := Reader.noDigit_cons (by decide) _
  have hread : Reader.socketV4 (writeV4 a b c d ++ ':' :: Nat.toDigits 10 p.toNat) =
      some (⟨.v4 a b c d, 0, p⟩, []) := by
    rw [Reader.socketV4, Reader.bind_some (Reader.ipv4_append a b c d hcolon)]
    dsimp only
    rw [Reader.bind_some (Reader.port_toDigits p)]
    rfl
  rw [parse?_eq_some_iff, toList_hostPort, write, String.toList_ofList, hread]
  rfl

theorem parse?_v6 {gs : List UInt16} (hlength : gs.length = 8) (p : UInt16) :
    parse? s!"{(IpAddress.v6 gs).bracketed}:{p}" = some ⟨.v6 gs, 0, p⟩ := by
  have hv4 : ∀ cs, Reader.socketV4 ('[' :: cs) = none := fun cs =>
    Reader.bind_none (Reader.ipv4_noDigit (Reader.noDigit_cons (by decide) cs))
  have hscope : ∀ cs, Reader.scope (']' :: cs) = some (0, ']' :: cs) := by
    intro cs
    have hzone := Reader.optional_none (Reader.bind_none (f := fun _ => Reader.number 10 UInt32.size none true)
      (Reader.char_ne (c := '%') (d := ']') (by decide) cs))
    exact Reader.bind_some hzone
  have hread : Reader.socketV6 ('[' :: (writeV6 gs ++ ']' :: ':' :: Nat.toDigits 10 p.toNat)) =
      some (⟨.v6 gs, 0, p⟩, []) := by
    rw [Reader.socketV6, Reader.bind_some (Reader.char_cons _ _),
      Reader.bind_some (Reader.ipv6_writeV6 hlength _), Reader.bind_some (hscope _),
      Reader.bind_some (Reader.char_cons _ _), Reader.bind_some (Reader.port_toDigits p)]
    rfl
  have htext : (IpAddress.v6 gs).bracketed.toList ++ ':' :: Nat.toDigits 10 p.toNat =
      '[' :: (writeV6 gs ++ ']' :: ':' :: Nat.toDigits 10 p.toNat) := by
    simp [bracketed, write]
  rw [parse?_eq_some_iff, toList_hostPort, htext, hv4, hread]
  rfl

/-- If host and port make an address, then it has this port, and a host with a colon stands in brackets. -/
theorem parse?_hostPort {host : String} {p : UInt16} {a : SocketAddress} (h : parse? s!"{host}:{p}" = some a) :
    a.port = p ∧ (':' ∉ host.toList ∨ ∃ inside, host.toList = '[' :: inside ++ [']']) := by
  obtain ⟨hdigits, hvalue⟩ := Reader.digits_toDigits 10 (by decide) (by decide) p.toNat
  obtain ⟨body, ds, hparted, hport⟩ := exists_parted h
  obtain ⟨rfl, rfl⟩ := hparted.unique (toList_hostPort host p) hdigits
  refine ⟨?_, hparted.closed⟩
  rw [hport, hvalue, UInt16.ofNat_toNat]

end SocketAddress

theorem IpAddress.mem_writeV6 {gs : List UInt16} (hlength : gs.length = 8) :
    ':' ∈ writeV6 gs ∧ '[' ∉ writeV6 gs := by
  constructor
  · unfold writeV6
    split
    · simp
    · split
      · simp
      · match gs, hlength with
        | _ :: _ :: _, _ => simp [writeGroups]
  · have htakes : Reader.Takes (· ≠ '[') Reader.ipv6 := by
      refine Reader.takes_ipv6 (fun c hc => ?_) (by decide) (by decide)
      rintro rfl
      cases hc
    obtain ⟨front, hfront, hopen⟩ := htakes _ _ _ (Reader.ipv6_writeV6 hlength [])
    rw [List.append_cancel_right hfront]
    exact fun h => hopen '[' h rfl

/-- No port makes an address of the sixth version one that is accepted, if it is not in brackets. -/
theorem SocketAddress.parse?_unbracketed {gs : List UInt16} (hlength : gs.length = 8) (p : UInt16) :
    parse? s!"{(IpAddress.v6 gs).write}:{p}" = none := by
  obtain ⟨hcolon, hopen⟩ := mem_writeV6 hlength
  cases hparse : parse? s!"{(IpAddress.v6 gs).write}:{p}" with
  | none => rfl
  | some a =>
      have hclosed := (parse?_hostPort hparse).2
      rw [write, String.toList_ofList] at hclosed
      obtain hfree | ⟨inside, hinside⟩ := hclosed
      · exact absurd hcolon hfree
      · rw [hinside] at hopen
        exact absurd List.mem_cons_self hopen

end TodoPromo.Net
