import Mathlib.Data.List.Basic
import Switchboard.Duration.Reading

/-!
Durations survive their text. What is written is a row of counted units with a blank between them,
and the reader cuts it into these units again. Each of them is added without loss: the counts make
up the duration, so no sum on the way is larger than it, and a count of a unit below a second comes
to less than a second.
-/
namespace Switchboard

def Duration.isNameChar (c : Char) : Bool := isUnitLetter c && !c.isDigit && !isWhite c

def Duration.Span.length : Duration.Span → Nat
  | .seconds n => n * 1000000000
  | .nanoseconds n => n

/-- Both names of a denomination are read as a time unit of its size. -/
def Denomination.Readable (unit : Denomination) : Prop :=
  ∀ name ∈ [unit.name, unit.plural],
    (Duration.TimeUnit.ofName? name).map (fun timeUnit => timeUnit.whole.length) = some unit.size ∧
      name ≠ "" ∧ ∀ c ∈ name.toList, Duration.isNameChar c = true

namespace Duration

theorem denominations_readable : ∀ unit ∈ denominations, unit.Readable := by
  simp only [Denomination.Readable, ← List.all_eq_true]
  decide +kernel

def partName (part : Nat × Denomination) : String :=
  if part.1 = 1 then part.2.name else part.2.plural

def partTerm (part : Nat × Denomination) : Term :=
  ⟨Decimal.digits part.1, none, (partName part).toList⟩

theorem partName_readable {part : Nat × Denomination} (readable : part.2.Readable) :
    (TimeUnit.ofName? (partName part)).map (fun timeUnit => timeUnit.whole.length) =
        some part.2.size ∧
      partName part ≠ "" ∧ ∀ c ∈ (partName part).toList, isNameChar c = true := by
  apply readable
  unfold partName
  split <;> simp

theorem partText_toList (part : Nat × Denomination) :
    (partText part).toList = Decimal.digits part.1 ++ (partName part).toList := by
  simp [partText, partName, Decimal.text]

theorem terms_digits (front digits rest : List Char) (all : ∀ c ∈ digits, c.isDigit = true) :
    terms (.whole front) (digits ++ rest) = terms (.whole (front ++ digits)) rest := by
  induction digits generalizing front with
  | nil => simp
  | cons c digits ih =>
      obtain ⟨digit, later⟩ := List.forall_mem_cons.mp all
      have next := ih (front ++ [c]) later
      rw [List.append_assoc, List.singleton_append] at next
      simp [terms, Place.step, digit, next]

theorem terms_letters (term : Term) (letters rest : List Char)
    (all : ∀ c ∈ letters, isNameChar c = true) :
    terms (.unit term) (letters ++ rest) =
      terms (.unit { term with unit := term.unit ++ letters }) rest := by
  induction letters generalizing term with
  | nil => simp
  | cons c letters ih =>
      obtain ⟨letter, later⟩ := List.forall_mem_cons.mp all
      simp only [isNameChar, Bool.and_eq_true, Bool.not_eq_true'] at letter
      have next := ih { term with unit := term.unit ++ [c] } later
      rw [List.append_assoc, List.singleton_append] at next
      simp [terms, Place.step, letter, next]

theorem terms_part (part : Nat × Denomination) (readable : part.2.Readable) (rest : List Char) :
    terms .before ((partText part).toList ++ rest) = terms (.unit (partTerm part)) rest := by
  obtain ⟨_, named, letters⟩ := partName_readable readable
  have digits := Decimal.digits_all_digit part.1
  rw [partText_toList, List.append_assoc, partTerm]
  generalize partName part = name at named letters
  obtain ⟨d, more, written⟩ := List.exists_cons_of_ne_nil (Decimal.digits_ne_nil part.1)
  obtain ⟨c, others, spelled⟩ :=
    List.exists_cons_of_ne_nil (mt String.toList_eq_nil_iff.mp named)
  rw [written] at digits ⊢
  rw [spelled] at letters ⊢
  obtain ⟨digit, later⟩ := List.forall_mem_cons.mp digits
  obtain ⟨letter, remaining⟩ := List.forall_mem_cons.mp letters
  simp only [isNameChar, Bool.and_eq_true, Bool.not_eq_true'] at letter
  have counted := terms_digits [d] more (c :: (others ++ rest)) later
  have called := terms_letters ⟨d :: more, none, [c]⟩ others rest remaining
  simpa [terms, Place.step, digit, letter, called] using counted

theorem terms_blank (term : Term) (rest : List Char) :
    terms (.unit term) (' ' :: rest) =
      (term :: (terms .before rest).1, (terms .before rest).2) := by
  have white : isWhite ' ' = true := by decide
  simp [terms, Place.step, white]

theorem terms_joined (first : Nat × Denomination) (parts : List (Nat × Denomination))
    (readable : ∀ part ∈ first :: parts, part.2.Readable) :
    terms .before (" ".intercalate ((first :: parts).map partText)).toList =
      ((first :: parts).map partTerm, true) := by
  induction parts generalizing first with
  | nil =>
      have alone := terms_part first (readable first List.mem_cons_self) []
      rw [List.append_nil] at alone
      simp [alone, terms]
  | cons second parts ih =>
      obtain ⟨here, later⟩ := List.forall_mem_cons.mp readable
      have tail := ih second later
      have blank : (" " : String).toList = [' '] := rfl
      simp only [List.map_cons] at tail ⊢
      rw [String.intercalate_cons_cons, String.toList_append, String.toList_append,
        List.append_assoc, terms_part first here, blank, List.singleton_append, terms_blank, tail]

def total : List (Nat × Denomination) → Nat
  | [] => 0
  | part :: rest => part.1 * part.2.size + total rest

/-- What is left of a number when each unit was taken out as often as it fits. -/
def leftOver (units : List Denomination) (n : Nat) : Nat :=
  units.foldl (fun rest unit => rest % unit.size) n

theorem total_parts (units : List Denomination) (n : Nat) :
    total (parts units n) + leftOver units n = n := by
  induction units generalizing n with
  | nil => simp [total, parts, leftOver]
  | cons unit smaller ih =>
      have rest := ih (n % unit.size)
      have split := Nat.div_add_mod' n unit.size
      simp only [total, parts, leftOver, List.foldl_cons] at rest ⊢
      omega

theorem total_filter (parts : List (Nat × Denomination)) :
    total (parts.filter fun part => part.1 != 0) = total parts := by
  induction parts with
  | nil => rfl
  | cons part parts ih =>
      by_cases nothing : part.1 = 0 <;> simp [total, nothing, ih]

theorem parts_append (larger smaller : List Denomination) (n : Nat) :
    parts (larger ++ smaller) n = parts larger n ++ parts smaller (leftOver larger n) := by
  induction larger generalizing n with
  | nil => rfl
  | cons unit larger ih => simp [parts, leftOver, ih]

theorem mem_parts (units : List Denomination) (n : Nat) :
    ∀ part ∈ parts units n, part.2 ∈ units ∧ part.1 * part.2.size ≤ n := by
  induction units generalizing n with
  | nil =>
      intro part member
      cases member
  | cons unit smaller ih =>
      intro part member
      rcases List.mem_cons.mp member with rfl | later
      · exact ⟨List.mem_cons_self, Nat.div_mul_le_self n unit.size⟩
      · obtain ⟨known, fits⟩ := ih _ part later
        exact ⟨List.mem_cons_of_mem _ known, Nat.le_trans fits (Nat.mod_le n unit.size)⟩

theorem leftOver_denominations (n : Nat) : leftOver denominations n = 0 := by
  simp [leftOver, denominations, Nat.mod_one]

def wholeDenominations : List Denomination := denominations.take 6

def fineDenominations : List Denomination := denominations.drop 6

-- Behind the seconds less than one second is left, for all units that come then.
theorem fine_part_small (n : Nat) : ∀ part ∈ parts denominations n,
    part.2.size < 1000000000 → part.1 * part.2.size < 1000000000 := by
  intro part member fine
  have split : denominations = wholeDenominations ++ fineDenominations :=
    (List.take_append_drop 6 denominations).symm
  rw [split, parts_append] at member
  rcases List.mem_append.mp member with whole | below
  · have large : ∀ unit ∈ wholeDenominations, 1000000000 ≤ unit.size := by decide
    exact absurd fine (Nat.not_lt.mpr (large part.2 (mem_parts _ _ part whole).1))
  · have rest : leftOver wholeDenominations n < 1000000000 := Nat.mod_lt _ (by decide)
    exact Nat.lt_of_le_of_lt (mem_parts _ _ part below).2 rest

theorem word?_ok {n : Nat} (fits : n < wordLimit) : word? n = .ok n := if_pos fits

theorem beside_lt_wordLimit (sum : Duration) {n : Nat} (small : n < 1000000000) :
    sum.nanoseconds % 1000000000 + n < wordLimit := by
  have beside := Nat.mod_lt sum.nanoseconds (show 0 < 1000000000 by decide)
  unfold wordLimit
  omega

theorem add_ok (sum : Duration) (span : Span) (fits : sum.nanoseconds + span.length < durationLimit)
    (small : ∀ n, span = .nanoseconds n → n < 1000000000) :
    sum.add span = .ok ⟨sum.nanoseconds + span.length, fits⟩ := by
  cases span with
  | seconds n =>
      have word := word?_ok (sum.beside_lt_wordLimit (show 0 < 1000000000 by decide))
      change sum.nanoseconds + n * 1000000000 < durationLimit at fits
      simp only [add, word, bind, Except.bind, fits, ↓reduceDIte]
      rfl
  | nanoseconds n =>
      have word := word?_ok (sum.beside_lt_wordLimit (small n rfl))
      change sum.nanoseconds + n < durationLimit at fits
      simp only [add, word, bind, Except.bind, fits, ↓reduceDIte]
      rfl

section Counts
variable {timeUnit : TimeUnit} {count : Nat} (fits : count * timeUnit.whole.length < durationLimit)
  (small : timeUnit.whole.length < 1000000000 → count * timeUnit.whole.length < 1000000000)

include fits small

theorem times_ok : ∃ span, timeUnit.whole.times count = .ok span ∧
    span.length = count * timeUnit.whole.length ∧
    ∀ n, span = .nanoseconds n → n < 1000000000 := by
  have kinds : (∃ n, timeUnit.whole = .seconds n) ∨
      ∃ n, n < 1000000000 ∧ timeUnit.whole = .nanoseconds n := by
    cases timeUnit <;> simp [TimeUnit.whole]
  rcases kinds with ⟨n, whole⟩ | ⟨n, below, whole⟩
  · rw [whole, Span.length, ← Nat.mul_assoc] at fits ⊢
    have word : count * n < wordLimit := Nat.lt_of_mul_lt_mul_right fits
    exact ⟨.seconds (count * n), by simp [Span.times, word?_ok word, Except.map], rfl, nofun⟩
  · rw [whole, Span.length] at small ⊢
    have word : count * n < wordLimit := Nat.lt_trans (small below) (by decide)
    refine ⟨.nanoseconds (count * n), by simp [Span.times, word?_ok word, Except.map], rfl, ?_⟩
    rintro _ ⟨⟩
    exact small below

theorem count_lt_wordLimit : count < wordLimit := by
  by_cases fine : timeUnit.whole.length < 1000000000
  · have one : 1 ≤ timeUnit.whole.length := by cases timeUnit <;> decide
    have most := Nat.le_mul_of_pos_right count one
    exact Nat.lt_of_le_of_lt most (Nat.lt_trans (small fine) (by decide))
  · have least := Nat.mul_le_mul_left count (Nat.le_of_not_lt fine)
    exact Nat.lt_of_mul_lt_mul_right (Nat.lt_of_le_of_lt least fits)

end Counts

theorem addTerm_part (sum : Duration) (part : Nat × Denomination) (readable : part.2.Readable)
    (fits : sum.nanoseconds + part.1 * part.2.size < durationLimit)
    (small : part.2.size < 1000000000 → part.1 * part.2.size < 1000000000) :
    sum.addTerm (partTerm part) = .ok ⟨sum.nanoseconds + part.1 * part.2.size, fits⟩ := by
  obtain ⟨named, _, _⟩ := partName_readable readable
  obtain ⟨timeUnit, found, size⟩ := Option.map_eq_some_iff.mp named
  have alone : part.1 * timeUnit.whole.length < durationLimit :=
    size ▸ Nat.lt_of_le_of_lt (Nat.le_add_left _ _) fits
  have fine : timeUnit.whole.length < 1000000000 →
      part.1 * timeUnit.whole.length < 1000000000 := size ▸ small
  obtain ⟨span, times, length, below⟩ := times_ok alone fine
  have added : sum.nanoseconds + span.length < durationLimit := by rwa [length, size]
  have word := word?_ok (count_lt_wordLimit alone fine)
  simp only [addTerm, partTerm, Decimal.value_digits, word, String.ofList_toList, found, times,
    add_ok sum span added below, bind, Except.bind, pure, Except.pure, length, size]

theorem foldlM_addTerm (parts : List (Nat × Denomination)) (sum : Duration)
    (readable : ∀ part ∈ parts, part.2.Readable)
    (small : ∀ part ∈ parts, part.2.size < 1000000000 → part.1 * part.2.size < 1000000000)
    (fits : sum.nanoseconds + total parts < durationLimit) :
    (parts.map partTerm).foldlM addTerm sum = .ok ⟨sum.nanoseconds + total parts, fits⟩ := by
  induction parts generalizing sum with
  | nil => rfl
  | cons part parts ih =>
      obtain ⟨readableHere, readableLater⟩ := List.forall_mem_cons.mp readable
      obtain ⟨smallHere, smallLater⟩ := List.forall_mem_cons.mp small
      have split : total (part :: parts) = part.1 * part.2.size + total parts := rfl
      have here : sum.nanoseconds + part.1 * part.2.size < durationLimit := by omega
      have later : sum.nanoseconds + part.1 * part.2.size + total parts < durationLimit := by omega
      have head := addTerm_part sum part readableHere here smallHere
      have tail := ih ⟨sum.nanoseconds + part.1 * part.2.size, here⟩ readableLater smallLater later
      simp only [List.map_cons, List.foldlM_cons, head, bind, Except.bind, tail, split,
        Nat.add_assoc]

def shown (duration : Duration) : List (Nat × Denomination) :=
  (parts denominations duration.nanoseconds).filter fun part => part.1 != 0

theorem total_shown (duration : Duration) : total duration.shown = duration.nanoseconds := by
  have split := total_parts denominations duration.nanoseconds
  rw [leftOver_denominations, Nat.add_zero] at split
  rw [shown, total_filter, split]

-- The text of parts ends well, as a lone zero does not.
theorem joined_ne_zero {text : String} {read : List Term}
    (ended : terms .before text.toList = (read, true)) : text ≠ "0" := by
  rintro rfl
  cases congrArg Prod.snd ended

theorem text_nothing {duration : Duration} (none : duration.shown = []) :
    duration.text = "0s" := by
  unfold shown at none
  rw [text, none]

theorem text_shown {duration : Duration} {first : Nat × Denomination}
    {rest : List (Nat × Denomination)} (some : duration.shown = first :: rest) :
    duration.text = " ".intercalate ((first :: rest).map partText) := by
  unfold shown at some
  rw [text, some]

/-- A duration is read back from its text, down to the nanosecond. -/
theorem ofText_text (duration : Duration) : ofText duration.text = .ok duration := by
  have sum := total_shown duration
  cases parted : duration.shown with
  | nil =>
      have nothing : duration = zero := by
        obtain ⟨n, bounded⟩ := duration
        rw [parted] at sum
        cases sum
        rfl
      rw [text_nothing parted, nothing]
      decide +kernel
  | cons first rest =>
      have origin : ∀ part ∈ first :: rest, part ∈ parts denominations duration.nanoseconds := by
        rw [← parted]
        exact fun part member => List.mem_of_mem_filter member
      have readable : ∀ part ∈ first :: rest, part.2.Readable := fun part member =>
        denominations_readable part.2 (mem_parts _ _ part (origin part member)).1
      have small := fun part member => fine_part_small _ part (origin part member)
      have read := terms_joined first rest readable
      have whole : zero.nanoseconds + total (first :: rest) = duration.nanoseconds := by
        rw [← parted, sum]
        exact Nat.zero_add _
      have added := foldlM_addTerm (first :: rest) zero readable small (whole ▸ duration.bounded)
      rw [text_shown parted, ofText, if_neg (joined_ne_zero read)]
      simp only [read, added, whole, bind, Except.bind]
      rfl

example : (⟨durationLimit - 1, by decide⟩ : Duration).text =
    "584542046090years 7months 15days 17h 5m 3s 999ms 999us 999ns" := by
  decide +kernel

end Duration
end Switchboard
