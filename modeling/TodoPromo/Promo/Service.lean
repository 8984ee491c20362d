import TodoPromo.Promo.Code
import TodoPromo.Random.Scripted
import TodoPromo.Store.Basic

/-! # Redeeming promo codes

Codes are kept one per key of a store. To validate a code changes nothing; to redeem it marks it as
used with a single write. The time is an argument of every operation.

Sample codes are unused, with windows that begin within a month and last six months. For each code
the days until its window begins are drawn first, and its discount after that. -/

namespace TodoPromo.Sample

/-! ### Sample codes -/

/-- A generated code begins less than this many days after today. -/
def startDays : Nat := 30

/-- How long the window of a generated code is. -/
def validMonths : Nat := 6

variable {ρ : Type} [NumberSource ρ]

/-- One code, or none if the drawn day is beyond the calendar; then no discount is drawn. -/
def generateOne (id : String) (now : Time.Instant) (source : ρ) : Option PromoCode × ρ :=
  let (days, source) := NumberSource.below startDays source
  match now.startOfDay.daysLater? days with
  | none => (none, source)
  | some start =>
    let (discount, source) := NumberSource.fraction PromoCode.discountBound source
    (some (PromoCode.fresh id start (start.monthsLater validMonths) discount), source)

/-- One code for each id, or none if one of them cannot be generated. -/
def generate (now : Time.Instant) : List String → ρ → Option (List PromoCode) × ρ
  | [], source => (some [], source)
  | id :: ids, source =>
    match generateOne id now source with
    | (none, source) => (none, source)
    | (some c, source) =>
      let (cs, source) := generate now ids source
      (cs.map (c :: ·), source)

end TodoPromo.Sample

namespace TodoPromo.Promo

/-! ### Stored codes -/

variable {σ ρ : Type} [KeyValue σ] [NumberSource ρ]

/-- The stored code that was presented, or why it cannot be redeemed now. -/
def redeemable (now : Time.Instant) (input : String) : Action σ (Except Rejection PromoCode) := do
  match ← KeyValue.read? (PromoCode.keyOf input) with
  | none => return .error .unknownCode
  | some (c : PromoCode) =>
    match c.check now with
    | some why => return .error why
    | none => return .ok c

/-- Whether a code can be redeemed. -/
def validate (now : Time.Instant) (input : String) : Action σ Validation := do
  match ← redeemable now input with
  | .ok c => return .accepted input c.discount
  | .error why => return .rejected input why

/-- Redeems a code, if it can be redeemed: from then on it counts as used. -/
def redeem (now : Time.Instant) (input : String) : Action σ Redemption := do
  match ← redeemable now input with
  | .ok c =>
    KeyValue.write (PromoCode.keyOf input) { c with used := true }
    return (Validation.accepted input c.discount).toRedemption
  | .error why => return (Validation.rejected input why).toRedemption

/-- Writes the codes one after another, up to the first write that fails. -/
def writeAll : List PromoCode → Action σ Unit
  | [] => return ()
  | c :: cs => do
    KeyValue.write c.key c
    writeAll cs

/-- Why no sample codes were stored, or not all of them. -/
inductive SeedError where
  /-- A window would begin beyond the calendar. -/
  | beyondCalendar
  /-- A write failed. -/
  | service (e : ActionError)
  deriving DecidableEq, Repr

/-- Generates one code for each id, and writes them when all are generated. -/
def seed (now : Time.Instant) (ids : List String) (source : ρ) :
    StateM σ (Except SeedError (List PromoCode) × ρ) := fun s =>
  match Sample.generate now ids source with
  | (none, source) => ((.error .beyondCalendar, source), s)
  | (some codes, source) =>
    match (writeAll codes : Action σ Unit).outcome s with
    | (.ok (), s) => ((.ok codes, source), s)
    | (.error e, s) => ((.error (.service e), source), s)

end TodoPromo.Promo
