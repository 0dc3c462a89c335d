import TopicTables.Number.Binary

/-! # Shortest decimals

Many decimals round to one float: they fill an interval around its value. The decimal chosen is one
of those with the fewest digits, and of those the nearest to the value. It is found on decimal
grids of growing fineness, where only the two neighbours of the value need a test.
-/

namespace TopicTables.Number

/-- The non-negative value `digits * 10 ^ exponent`. -/
structure Decimal where
  digits : Nat
  exponent : Int
deriving DecidableEq, Repr

/-- Order a decimal against a value in powers of two, exactly. -/
def Decimal.compareTo (d : Decimal) (m : Magnitude) : Ordering :=
  compare (d.digits * Nat.pow 10 d.exponent.toNat * Nat.pow 2 (-m.exponent).toNat)
    (m.mantissa * Nat.pow 2 m.exponent.toNat * Nat.pow 10 (-d.exponent).toNat)

/-- The float below is half as far away as the float above: the mantissa is a power of two and the
exponent not the least. -/
def Magnitude.isNarrowBelow (m : Magnitude) : Bool :=
  m.mantissa == Nat.pow 2 52 && m.exponent > -1074

/-- The point halfway to the float below. -/
def Magnitude.lowerEnd (m : Magnitude) : Magnitude :=
  ⟨if m.isNarrowBelow then 4 * m.mantissa - 1 else 4 * m.mantissa - 2, m.exponent - 2⟩

/-- The point halfway to the float above. -/
def Magnitude.upperEnd (m : Magnitude) : Magnitude :=
  ⟨4 * m.mantissa + 2, m.exponent - 2⟩

/-- The decimal rounds to the float; a decimal halfway between two floats goes to the even one. -/
def Magnitude.isReadFrom (m : Magnitude) (d : Decimal) : Bool :=
  let isEven := m.mantissa % 2 == 0
  (match d.compareTo m.lowerEnd with | .gt => true | .eq => isEven | .lt => false) &&
  (match d.compareTo m.upperEnd with | .lt => true | .eq => isEven | .gt => false)

/-- The largest multiple of `10 ^ exponent` not above the value. -/
def Magnitude.onGrid (m : Magnitude) (exponent : Int) : Decimal :=
  ⟨m.mantissa * Nat.pow 2 m.exponent.toNat * Nat.pow 10 (-exponent).toNat /
    (Nat.pow 2 (-m.exponent).toNat * Nat.pow 10 exponent.toNat), exponent⟩

/-- The number of digits before the point: the least `k` with the value below `10 ^ k`. -/
def Magnitude.scale (m : Magnitude) : Int :=
  let guess := Int.fdiv ((m.mantissa.log2 + m.exponent) * 30103) 100000
  let steps := [guess - 1, guess, guess + 1]
  (steps.find? fun k => Decimal.compareTo ⟨1, k⟩ m == .gt).getD (guess + 2)

/-- The better neighbour on one grid that reads back to the float: the nearer one, and the even one
when both are equally near. -/
def Magnitude.neighbour? (m : Magnitude) (exponent : Int) : Option Decimal :=
  let below := m.onGrid exponent
  let above : Decimal := ⟨below.digits + 1, exponent⟩
  match m.isReadFrom below, m.isReadFrom above with
  | false, false => none
  | true, false => some below
  | false, true => some above
  | true, true =>
    match Decimal.compareTo ⟨2 * below.digits + 1, exponent⟩ ⟨2 * m.mantissa, m.exponent⟩ with
    | .gt => some below
    | .lt => some above
    | .eq => some (if below.digits % 2 == 0 then below else above)

/-- Move the final zeros of the digits into the exponent. -/
def Decimal.normal (d : Decimal) : Decimal :=
  let zeros := ((Nat.toDigits 10 d.digits).reverse.takeWhile (· == '0')).length
  if d.digits == 0 then ⟨0, 0⟩ else ⟨d.digits / Nat.pow 10 zeros, d.exponent + zeros⟩

/-- A shortest decimal that reads back to the float. Seventeen digits always suffice. -/
def Magnitude.shortest (m : Magnitude) : Decimal :=
  let scale := m.scale
  let grids := (List.range 17).map fun (count : Nat) => scale - (count + 1)
  ((grids.findSome? m.neighbour?).getD (m.onGrid (scale - 17))).normal

/-- Whatever is chosen on a grid reads back. -/
theorem Magnitude.isReadFrom_of_neighbour? {m : Magnitude} {exponent : Int} {d : Decimal}
    (h : m.neighbour? exponent = some d) : m.isReadFrom d = true := by
  simp only [Magnitude.neighbour?] at h
  split at h
  · simp at h
  · next h₁ _ => rw [← Option.some.inj h]; exact h₁
  · next _ h₂ => rw [← Option.some.inj h]; exact h₂
  · next h₁ h₂ =>
    split at h
    · rw [← Option.some.inj h]; exact h₁
    · rw [← Option.some.inj h]; exact h₂
    · rw [← Option.some.inj h]
      split
      · exact h₁
      · exact h₂

end TopicTables.Number
