import Mathlib.Data.List.DropRight
import Mathlib.Data.List.TakeWhile
import Switchboard.Ordinal

/-!
What an ordinal is read from. Going back from the end of an identifier, the scan stops where the
longest run of digits begins. That is always between two characters, so the run can be cut off there
whatever stands in front of it, and it is all that is cut off. Zeros at the beginning of the run
change nothing, and a run that denotes too large a number counts as no run at all. The identifiers
that a table makes are runs from the first character on, and so each gives its number back.
-/
namespace Switchboard

/-- The last character of a text, if it has one, is no ASCII digit. -/
def EndsPlain (text : String) : Prop := ∀ c ∈ text.toList.getLast?, c.isDigit = false

def IsRun (text : String) : Prop := ∀ c ∈ text.toList, c.isDigit = true

def zeros (count : Nat) : String := String.ofList (List.replicate count '0')

theorem exists_run (text : String) :
    ∃ front digits : String, text = front ++ digits ∧ EndsPlain front ∧ IsRun digits := by
  refine ⟨String.ofList (text.toList.rdropWhile Char.isDigit),
    String.ofList (text.toList.rtakeWhile Char.isDigit), ?_, ?_, ?_⟩
  · rw [← String.ofList_append, List.rdropWhile_append_rtakeWhile, String.ofList_toList]
  · intro c last
    rw [String.toList_ofList] at last
    obtain ⟨kept, rfl⟩ := List.mem_getLast?_eq_getLast last
    exact Bool.eq_false_iff.mpr (List.rdropWhile_last_not Char.isDigit text.toList kept)
  · intro c member
    rw [String.toList_ofList] at member
    exact List.mem_rtakeWhile_imp member

section Scan

theorem withStarts_snd (start : Nat) (cs : List Char) :
    (withStarts start cs).map Prod.snd = cs := by
  induction cs generalizing start with
  | nil => rfl
  | cons c rest ih => rw [withStarts, List.map_cons, ih]

theorem utf8ByteSize_cons (c : Char) (rest : List Char) :
    (String.ofList (c :: rest)).utf8ByteSize = c.utf8Size + (String.ofList rest).utf8ByteSize := by
  rw [← List.singleton_append, String.ofList_append, String.utf8ByteSize_append,
    ← String.singleton_eq_ofList, String.utf8ByteSize_singleton]

theorem withStarts_append (start : Nat) (front rest : List Char) :
    withStarts start (front ++ rest) =
      withStarts start front ++ withStarts (start + (String.ofList front).utf8ByteSize) rest := by
  induction front generalizing start with
  | nil => rfl
  | cons c front ih =>
      rw [List.cons_append, withStarts, withStarts, ih, utf8ByteSize_cons, Nat.add_assoc,
        List.cons_append]

-- Seen from the end the digits come first, and the last character in front of them stops the scan.
theorem scan_run (front digits : List Char) (plain : ∀ c ∈ front.getLast?, c.isDigit = false)
    (run : ∀ c ∈ digits, c.isDigit = true) (start middle : Nat) :
    (withStarts start front ++ withStarts middle digits).reverse.takeWhile
      (fun place => place.2.isDigit) = (withStarts middle digits).reverse := by
  have stopped :
      (withStarts start front).reverse.takeWhile (fun place => place.2.isDigit) = [] := by
    rcases List.eq_nil_or_concat' front with rfl | ⟨before, last, rfl⟩
    · rfl
    · have stops : last.isDigit = false := plain last (by simp)
      rw [withStarts_append, withStarts, withStarts, List.reverse_append, List.reverse_singleton,
        List.singleton_append, List.takeWhile_cons_of_neg (by simp [stops])]
  rw [List.reverse_append, List.takeWhile_append_of_pos, stopped, List.append_nil]
  intro place member
  have inside := List.mem_map_of_mem (f := Prod.snd) (List.mem_reverse.mp member)
  rw [withStarts_snd] at inside
  exact run place.2 inside

theorem digitsStart_append (front digits : String) (plain : EndsPlain front)
    (run : IsRun digits) : digitsStart (front ++ digits) = front.utf8ByteSize := by
  rw [digitsStart, String.toList_append, withStarts_append, scan_run _ _ plain run,
    List.getLast?_reverse, String.ofList_toList, Nat.zero_add, String.utf8ByteSize_append]
  cases written : digits.toList with
  | nil =>
      rw [String.toList_eq_nil_iff.mp written]
      rfl
  | cons c rest => rfl

end Scan

section Reading

theorem ordinal_append (front digits : String) (plain : EndsPlain front) (run : IsRun digits) :
    ordinal (front ++ digits) =
      if Decimal.value digits.toList < wordLimit then Decimal.value digits.toList else 0 := by
  rw [ordinal, digitsStart_append front digits plain run, cutFrom?_append, Option.bind_some,
    runValue?_getD]

theorem ordinal_plain (front : String) (plain : EndsPlain front) : ordinal front = 0 := by
  have read := ordinal_append front "" plain fun _ member => absurd member List.not_mem_nil
  rwa [String.append_empty] at read

theorem toList_zeros_append (count n : Nat) :
    (zeros count ++ toString n).toList = List.replicate count '0' ++ Decimal.digits n := by
  rw [String.toList_append, zeros, String.toList_ofList, ← Decimal.text_eq_toString, Decimal.text,
    String.toList_ofList]

theorem isRun_zeros_append (count n : Nat) : IsRun (zeros count ++ toString n) := by
  intro c member
  rw [toList_zeros_append, List.mem_append] at member
  rcases member with filled | written
  · rw [List.eq_of_mem_replicate filled]
    rfl
  · exact Decimal.digits_all_digit n c written

theorem ordinal_zeros_append (front : String) (plain : EndsPlain front) (count n : Nat) :
    ordinal (front ++ zeros count ++ toString n) = if n < wordLimit then n else 0 := by
  rw [String.append_assoc, ordinal_append front _ plain (isRun_zeros_append count n),
    toList_zeros_append, Decimal.value_zeros, Decimal.value_digits]

theorem numbered_eq (n : Nat) :
    numbered n = zeros (3 - (toString n).length) ++ toString n := by
  rw [numbered, Decimal.padded, String.ofList_append, ← Decimal.text_eq_toString, Decimal.text,
    String.length_ofList]
  rfl

theorem ordinal_numbered (n : Nat) (inWord : n < wordLimit) : ordinal (numbered n) = n := by
  have read := ordinal_zeros_append "" (fun _ last => nomatch last) (3 - (toString n).length) n
  rwa [if_pos inWord, String.empty_append, ← numbered_eq] at read

end Reading

/-- An identifier is cut in front of its longest run of digits, never inside a character. The run
is read as its number, zeros in front or not, if that fits 64 bits, and else as zero, as no digits
are. So what a table makes from a 64-bit number, its decimal text filled up to three digits, gives
the number back, and no two numbers make the same text. -/
theorem ordinals_read_back :
    (∀ id : String, ∃ front digits : String, id = front ++ digits ∧ EndsPlain front ∧
      IsRun digits ∧ digitsStart id = front.utf8ByteSize ∧
      String.Pos.Raw.IsValid id ⟨digitsStart id⟩ ∧ cutFrom? id (digitsStart id) = some digits) ∧
    (∀ front : String, EndsPlain front →
      ordinal front = 0 ∧
      ∀ count n : Nat,
        ordinal (front ++ zeros count ++ toString n) = if n < UInt64.size then n else 0) ∧
    (∀ v : UInt64,
      numbered v.toNat = zeros (3 - (toString v.toNat).length) ++ toString v.toNat ∧
      ordinal (numbered v.toNat) = v.toNat) ∧
    Function.Injective fun v : UInt64 => numbered v.toNat := by
  refine ⟨fun id => ?cut, fun front plain => ⟨ordinal_plain front plain, ?read⟩,
    fun v => ⟨numbered_eq v.toNat, ordinal_numbered v.toNat v.toNat_lt⟩, ?apart⟩
  case cut =>
    obtain ⟨front, digits, rfl, plain, run⟩ := exists_run id
    rw [digitsStart_append front digits plain run, cutFrom?_append]
    exact ⟨front, digits, rfl, plain, run, rfl,
      String.Pos.Raw.isValid_iff_exists_append.mpr ⟨front, digits, rfl, rfl⟩, rfl⟩
  case read => exact ordinal_zeros_append front plain
  case apart => exact fun v w same => UInt64.toNat_inj.mp (numbered_injective same)

theorem ordinals_read_back_afterDigit :
    EndsPlain "é٣" ∧ ordinal "é٣" = 0 ∧ ordinal "é٣0042" = 42 ∧
      ordinal "é٣018446744073709551615" = 18446744073709551615 ∧
      ordinal "é٣18446744073709551616" = 0 := by
  have plain : EndsPlain "é٣" := by
    have ending : "é٣".toList.getLast? = some '٣' := by decide +kernel
    intro c last
    rw [ending, Option.mem_some] at last
    rw [← last]
    decide
  have short : "é٣" ++ zeros 2 ++ toString 42 = "é٣0042" := by decide +kernel
  have greatest : "é٣" ++ zeros 1 ++ toString 18446744073709551615 =
      "é٣018446744073709551615" := by decide +kernel
  have tooLarge : "é٣" ++ zeros 0 ++ toString 18446744073709551616 =
      "é٣18446744073709551616" := by decide +kernel
  obtain ⟨none, read⟩ := ordinals_read_back.2.1 "é٣" plain
  refine ⟨plain, none, ?_, ?_, ?_⟩
  · rw [← short, read, if_pos (by decide)]
  · rw [← greatest, read, if_pos (by decide)]
  · rw [← tooLarge, read, if_neg (by decide)]

end Switchboard
