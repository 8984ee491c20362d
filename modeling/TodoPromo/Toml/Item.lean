/-! # Items of a TOML document

What keys stand for. Numbers with a fraction and points in time are not looked at any further, so
nothing of them is kept. A table remembers how it came about, because that decides whether it may
be extended later. -/

namespace TodoPromo.Toml

/-- How a table came about: implied by longer names, and if so, by a key with points in it. -/
structure Form where
  implicit : Bool
  dotted : Bool
  deriving DecidableEq, Repr

/-- A table with a header of its own, or with braces. -/
def Form.explicit : Form := ⟨false, false⟩

inductive Item where
  | text (s : String)
  | integer (n : Int)
  | float
  | boolean (b : Bool)
  | moment
  | array (items : List Item)
  /-- A table, written inline or by headers and keys. -/
  | table (inline : Bool) (form : Form) (entries : List (String × Item))
  /-- The tables with the same header in double brackets. -/
  | tables (items : List (List (String × Item)))

/-- Keys and what they stand for. Keys are distinct. -/
abbrev Entries := List (String × Item)

namespace Entries

def item? (key : String) (es : Entries) : Option Item :=
  (List.find? (fun e => e.1 == key) es).map Prod.snd

def without (key : String) (es : Entries) : Entries := es.filter (·.1 != key)

def put (key : String) (item : Item) (es : Entries) : Entries := es.without key ++ [(key, item)]

/-- Acts on the table that a path leads to from a table of the given form. Tables that are missing
on the way are implied. A key with points must not lead through a table with a header of its own;
a path through tables with double brackets leads through the last one so far. -/
def actAt {β : Type} (inline dotted : Bool) (act : Form → Entries → Option (β × Entries)) :
    List String → Form → Entries → Option (β × Entries)
  | [], form, es => act form es
  | key :: path, _, es =>
    match es.item? key with
    | none => do
      let form : Form := ⟨true, dotted⟩
      let (b, sub) ← actAt inline dotted act path form []
      return (b, es.put key (.table inline form sub))
    | some (.table kind form sub) =>
      if kind != inline || (dotted && !form.implicit) then none
      else do
        let (b, sub) ← actAt inline dotted act path form sub
        return (b, es.put key (.table kind form sub))
    | some (.tables items) =>
      match items.reverse with
      | [] => none
      | last :: before => do
        let (b, sub) ← actAt inline dotted act path .explicit last
        return (b, es.put key (.tables (before.reverse ++ [sub])))
    | some _ => none

/-- Gives a key with points in it a value. The key must be new; a key without points does not go
into a table that such keys made, and one with points only into such tables. -/
def assign (inline : Bool) (path : List String) (key : String) (item : Item) (es : Entries) :
    Option Entries :=
  (actAt inline true (fun form sub =>
    if form.dotted == path.isEmpty || (item? key sub).isSome then none
    else some ((), sub ++ [(key, item)])) path .explicit es).map (·.2)

end Entries
end TodoPromo.Toml
