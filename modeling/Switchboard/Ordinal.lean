import Switchboard.Decimal

/-!
The ordinal of an identifier: the number that its trailing ASCII digits denote, zero if it has none
or if the number does not fit 64 bits. The digits are looked for from the end, one character at a
time, and cut off at the byte that the first of them begins at. Identifiers that a table hands out
are numbers padded to three digits, and such a text gives its number back.
-/
namespace Switchboard

def wordLimit : Nat := 18446744073709551616

def withStarts : Nat → List Char → List (Nat × Char)
  | _, [] => []
  | start, c :: rest => (start, c) :: withStarts (start + c.utf8Size) rest

/-- The byte at which the digits at the end of a text begin, or its end if there are none. -/
def digitsStart (text : String) : Nat :=
  match ((withStarts 0 text.toList).reverse.takeWhile fun place => place.2.isDigit).getLast? with
  | some place => place.1
  | none => text.utf8ByteSize

/-- The rest of a text from a byte on, unless that byte is inside a character or beyond the end. -/
def cutFrom? (text : String) (start : Nat) : Option String :=
  if valid : String.Pos.Raw.IsValid text ⟨start⟩ then
    some (text.sliceFrom ⟨⟨start⟩, valid⟩).copy
  else none

def runValue? (digits : String) : Option Nat :=
  let n := Decimal.value digits.toList
  if !digits.isEmpty && decide (n < wordLimit) then some n else none

def ordinal (id : String) : Nat := ((cutFrom? id (digitsStart id)).bind runValue?).getD 0

/-- The identifier that a table makes from a number. -/
def numbered (n : Nat) : String := String.ofList (Decimal.padded 3 n)

theorem cutFrom?_append (front back : String) :
    cutFrom? (front ++ back) front.utf8ByteSize = some back := by
  have valid : String.Pos.Raw.IsValid (front ++ back) ⟨front.utf8ByteSize⟩ :=
    String.Pos.Raw.isValid_iff_exists_append.mpr ⟨front, back, rfl, rfl⟩
  rw [cutFrom?, dif_pos valid]
  exact congrArg some ((String.Pos.splits _).eq_right ⟨rfl, rfl⟩)

theorem runValue?_getD (digits : String) :
    (runValue? digits).getD 0 =
      if Decimal.value digits.toList < wordLimit then Decimal.value digits.toList else 0 := by
  by_cases none : digits = ""
  · subst none
    rfl
  · by_cases small : Decimal.value digits.toList < wordLimit <;> simp [runValue?, none, small]

theorem runValue?_lt {digits : String} {n : Nat} (read : runValue? digits = some n) :
    n < wordLimit := by
  simp only [runValue?, Option.ite_none_right_eq_some, Bool.and_eq_true, decide_eq_true_eq,
    Option.some.injEq] at read
  exact read.2 ▸ read.1.2

theorem ordinal_lt_wordLimit (id : String) : ordinal id < wordLimit := by
  unfold ordinal
  cases read : (cutFrom? id (digitsStart id)).bind runValue? with
  | none => decide
  | some n =>
    obtain ⟨_, _, read⟩ := Option.bind_eq_some_iff.mp read
    exact runValue?_lt read

theorem numbered_injective {m n : Nat} (same : numbered m = numbered n) : m = n :=
  Decimal.padded_injective 3 (String.ofList_injective same)

theorem numbered_ne_empty (n : Nat) : numbered n ≠ "" := by
  intro empty
  exact Decimal.padded_ne_nil 3 n (String.ofList_injective empty)

end Switchboard
