import Mathlib.Data.List.TakeDrop
import Switchboard.Json.Reader
import Switchboard.Json.Writer
import Switchboard.Proofs.Contents

/-!
Whatever is written is read back. A string is cut into one piece for every character, an integer is
one token, and the machine goes from the beginning of a value to its end with the datum of the value
in hand, whatever arrays and objects are open around it.
-/
namespace Switchboard.Json

namespace Text

-- The three ways in which a character is written.
theorem escape_cases (c : Char) :
    (∃ letter, escape c = ['\\', letter] ∧ short? letter = some c ∧ letter ≠ 'u') ∨
    (c.toNat < 32 ∧ escape c =
      ['\\', 'u', '0', '0', Hex.digit (c.toNat / 16), Hex.digit (c.toNat % 16)]) ∨
    (c ≠ '"' ∧ c ≠ '\\' ∧ ¬ c.toNat < 32 ∧ escape c = [c]) := by
  by_cases special : c ∈ ['"', '\\', '\n', '\r', '\t', '\x08', '\x0c']
  · left
    simp only [List.mem_cons, List.not_mem_nil, or_false] at special
    rcases special with rfl | rfl | rfl | rfl | rfl | rfl | rfl <;>
      exact ⟨_, rfl, rfl, by decide⟩
  · right
    simp only [List.mem_cons, List.not_mem_nil, or_false, not_or] at special
    obtain ⟨quote, slash, feed, back, tab, erase, page⟩ := special
    by_cases low : c.toNat < 32
    · exact Or.inl ⟨low, by simp [escape, *]⟩
    · exact Or.inr ⟨quote, slash, low, by simp [escape, *]⟩

theorem hexUnit?_low (n : Nat) (low : n < 32) :
    hexUnit? '0' '0' (Hex.digit (n / 16)) (Hex.digit (n % 16)) = some n := by
  have first := Hex.value?_digit (n / 16) (by omega)
  have second := Hex.value?_digit (n % 16) (by omega)
  have zero : Hex.value? '0' = some 0 := rfl
  simp only [hexUnit?, zero, first, second, Option.bind_eq_bind, Option.bind_some, Option.pure_def,
    Option.some.injEq]
  omega

-- A written character is cut into one piece, which denotes it.
theorem pieces_escape (c : Char) (tail : List Char) :
    ∃ piece, pieces (escape c ++ tail) = (piece :: (pieces tail).1, (pieces tail).2) ∧
      ∀ ending rest, decode ending (piece :: rest) = (decode ending rest).map (c :: ·) := by
  rcases escape_cases c with ⟨letter, same, short, other⟩ | ⟨low, same⟩ | ⟨quote, slash, high, same⟩
  · refine ⟨.short c ('\\' :: letter :: tail), ?_, fun _ _ => rfl⟩
    simp [same, pieces, short, other]
  · have unit := hexUnit?_low c.toNat low
    have trailing : isTrailing c.toNat = false := by simp [isTrailing]; omega
    have leading : isLeading c.toNat = false := by simp [isLeading]; omega
    rw [same]
    generalize Hex.digit (c.toNat / 16) = first at unit
    generalize Hex.digit (c.toNat % 16) = second at unit
    refine ⟨.unit c.toNat ('\\' :: 'u' :: '0' :: '0' :: first :: second :: tail), ?_, ?_⟩
    · simp [pieces, unit]
    · intro ending rest
      rw [decode.eq_def]
      simp [trailing, leading]
  · refine ⟨.plain c (c :: tail), ?_, fun _ _ => rfl⟩
    simp [same, pieces, slash, high]

theorem pieces_encode (cs tail : List Char) :
    (pieces (encode cs ++ '"' :: tail)).2 = .closed ('"' :: tail) tail ∧
      decode (.closed ('"' :: tail) tail) (pieces (encode cs ++ '"' :: tail)).1 = .ok cs := by
  induction cs with
  | nil => exact ⟨rfl, rfl⟩
  | cons c rest ih =>
      obtain ⟨piece, cut, denotes⟩ := pieces_escape c (encode rest ++ '"' :: tail)
      have written : encode (c :: rest) = escape c ++ encode rest := List.flatMap_cons
      rw [written, List.append_assoc, cut, denotes, ih.2]
      exact ⟨ih.1, rfl⟩

end Text

theorem string_encode (s : String) (tail : List Char) :
    string (Text.encode s.toList ++ '"' :: tail) = (.string (.ok s), tail) := by
  obtain ⟨closed, denoted⟩ := Text.pieces_encode s.toList tail
  simp [string, closed, denoted, Except.map]

def Number.fits : Number → Bool
  | .int n => decide (-(twoTo 63 : Int) ≤ n ∧ n < twoTo 64)
  | .double _ => false

def Value.isIntegral : Value → Bool := Value.every fun part =>
  match part with
  | .number n => n.fits
  | _ => true

theorem Value.isIntegral_array (items : List Value) :
    (Value.array items).isIntegral = true ↔ ∀ item ∈ items, item.isIntegral = true := by
  simp [Value.isIntegral, Value.every_array]

theorem Value.isIntegral_object (fields : List (String × Value)) :
    (Value.object fields).isIntegral = true ↔ ∀ field ∈ fields, field.2.isIntegral = true := by
  simp [Value.isIntegral, Value.every_object]

/-- A text after a value is at its end or goes on with what may follow a value. -/
def Bounded (rest : List Char) : Prop :=
  ∀ c ∈ rest.head?, c = ',' ∨ c = ']' ∨ c = '\x7d'

theorem Bounded.head {c : Char} {rest : List Char} (bounded : Bounded (c :: rest)) :
    c = ',' ∨ c = ']' ∨ c = '\x7d' := bounded c rfl

namespace Numeral

theorem spanDigits_append (digits rest : List Char) (all : ∀ c ∈ digits, c.isDigit = true)
    (bounded : Bounded rest) : spanDigits (digits ++ rest) = (digits, rest) := by
  have stops : rest.takeWhile Char.isDigit = [] ∧ rest.dropWhile Char.isDigit = rest := by
    cases rest with
    | nil => exact ⟨rfl, rfl⟩
    | cons c rest =>
        have other : c.isDigit = false := by rcases bounded.head with rfl | rfl | rfl <;> rfl
        simp [other]
  rw [spanDigits, List.span_eq_takeWhile_dropWhile, List.takeWhile_append_of_pos all,
    List.dropWhile_append_of_pos all, stops.1, stops.2, List.append_nil]

theorem readTail_bounded (numeral : Numeral) (rest : List Char) (bounded : Bounded rest) :
    readTail numeral rest = .ok { numeral with rest := rest } := by
  cases rest with
  | nil => rfl
  | cons c rest => rcases bounded.head with rfl | rfl | rfl <;> rfl

theorem digit_ne_zero (d : Nat) (small : d < 10) (positive : 0 < d) : Decimal.digit d ≠ '0' := by
  intro same
  have value := congrArg Char.toNat same
  rw [Decimal.digit_toNat d small] at value
  change 48 + d = 48 at value
  omega

-- Only zero begins with a zero.
theorem digits_cons (n : Nat) (positive : 0 < n) :
    ∃ c rest, Decimal.digits n = c :: rest ∧ c ≠ '0' := by
  induction n using Nat.strongRecOn with
  | ind n ih =>
    rw [Decimal.digits]
    split
    next small => exact ⟨_, [], rfl, digit_ne_zero n small positive⟩
    next large =>
      obtain ⟨c, rest, same, other⟩ := ih (n / 10) (by omega) (by omega)
      exact ⟨c, rest ++ [Decimal.digit (n % 10)], by rw [same, List.cons_append], other⟩

theorem read_digits (negative : Bool) (n : Nat) (rest : List Char) (bounded : Bounded rest) :
    read negative (Decimal.digits n ++ rest) =
      .ok ⟨negative, Decimal.digits n, none, none, rest⟩ := by
  have all := Decimal.digits_all_digit n
  by_cases zero : n = 0
  · subst zero
    have one : Decimal.digits 0 = ['0'] := by simp [Decimal.digits, Decimal.digit]
    have next : (rest.head?.map Char.isDigit).getD false = false := by
      cases rest with
      | nil => rfl
      | cons c rest => rcases bounded.head with rfl | rfl | rfl <;> rfl
    rw [one]
    simp [read, next, readTail_bounded _ rest bounded]
  · obtain ⟨c, more, same, other⟩ := digits_cons n (Nat.pos_of_ne_zero zero)
    have digit : c.isDigit = true := all c (same ▸ List.mem_cons_self)
    have span := spanDigits_append (Decimal.digits n) rest all bounded
    rw [same, List.cons_append] at span ⊢
    simp [read, digit, span, readTail_bounded _ rest bounded]

end Numeral

-- A digit is no blank and begins no other token.
theorem lexeme_digit (c : Char) (rest : List Char) (digit : c.isDigit = true) :
    isBlank c = false ∧ lexeme c rest = numeral false (c :: rest) := by
  have apart (other : Char) (no : other.isDigit = false) : c ≠ other := by
    rintro rfl
    exact Bool.false_ne_true (no.symm.trans digit)
  refine ⟨by simp [isBlank, apart ' ' rfl, apart '\t' rfl, apart '\n' rfl, apart '\r' rfl], ?_⟩
  unfold lexeme
  rw [if_neg (apart _ rfl), if_neg (apart _ rfl), if_neg (apart _ rfl), if_neg (apart _ rfl),
    if_neg (apart _ rfl), if_neg (apart _ rfl), if_neg (apart _ rfl), if_neg (apart _ rfl),
    if_neg (apart _ rfl), if_neg (apart _ rfl), if_neg (apart _ rfl), if_pos digit]

theorem lexeme_integer (n : Int) (fits : (Number.int n).fits = true) (rest : List Char)
    (bounded : Bounded rest) :
    ∃ c more, integer n = c :: more ∧ isBlank c = false ∧
      lexeme c (more ++ rest) = (.number (.ok (.int n)), rest) := by
  obtain ⟨low, high⟩ := of_decide_eq_true fits
  have read (negative : Bool) := Numeral.read_digits negative n.natAbs rest bounded
  by_cases negative : n < 0
  · refine ⟨'-', Decimal.digits n.natAbs, by simp [integer, negative], rfl, ?_⟩
    change numeral true (Decimal.digits n.natAbs ++ rest) = _
    have held : n.natAbs ≠ 0 ∧ n.natAbs ≤ twoTo 63 := by omega
    have same : -(n.natAbs : Int) = n := by omega
    generalize n.natAbs = magnitude at read held same ⊢
    simp [numeral, read true, Numeral.number, Decimal.value_digits, held, same]
  · have held : n.natAbs < twoTo 64 := by omega
    have same : (n.natAbs : Int) = n := by omega
    obtain ⟨c, more, digits⟩ := List.exists_cons_of_ne_nil (Decimal.digits_ne_nil n.natAbs)
    have digit : c.isDigit = true :=
      Decimal.digits_all_digit n.natAbs c (digits ▸ List.mem_cons_self)
    obtain ⟨visible, begins⟩ := lexeme_digit c (more ++ rest) digit
    refine ⟨c, more, by simp [integer, negative, digits], visible, ?_⟩
    rw [begins, ← List.cons_append, ← digits]
    generalize n.natAbs = magnitude at read held same ⊢
    simp [numeral, read false, Numeral.number, Decimal.value_digits, held, same]

/-- Reading on from a state at a text comes to another state at what is left of the text. -/
def Reaches (state : ReadState) (cs : List Char) (next : ReadState) (rest : List Char) : Prop :=
  ∀ fuel, cs.length ≤ fuel → ∃ left, rest.length ≤ left ∧
    state.ahead (tokensWithin fuel cs) = next.ahead (tokensWithin left rest)

theorem Reaches.trans {first second third : ReadState} {before between after : List Char}
    (front : Reaches first before second between) (back : Reaches second between third after) :
    Reaches first before third after := by
  intro fuel enough
  obtain ⟨left, still, same⟩ := front fuel enough
  obtain ⟨last, enoughLast, again⟩ := back left still
  exact ⟨last, enoughLast, same.trans again⟩

theorem reaches_token {state next : ReadState} {c : Char} {rest after : List Char} {found : Lexeme}
    (visible : isBlank c = false) (token : lexeme c rest = (found, after))
    (shorter : after.length ≤ rest.length) (step : state.step false ⟨found, c :: rest⟩ = .ok next) :
    Reaches state (c :: rest) next after := by
  intro fuel enough
  cases fuel with
  | zero => cases enough
  | succ fuel =>
      refine ⟨fuel, Nat.le_trans shorter (Nat.le_of_succ_le_succ enough), ?_⟩
      simp [tokensWithin, visible, token, ReadState.ahead, step]

-- A value may come next.
def ReadState.Ready (state : ReadState) : Prop :=
  state.expect = .value ∨ state.expect = .firstItem ∨ state.expect = .item

theorem ReadState.Ready.step {state : ReadState} (ready : state.Ready) (token : Token)
    (other : token.lexeme ≠ .closeArray) : state.step false token = state.value false token := by
  obtain ⟨opened, expect, result⟩ := state
  rcases ready with rfl | rfl | rfl
  · rfl
  · simp only [ReadState.step]
    split
    next same => exact absurd same other
    next => rfl
  · simp only [ReadState.step]

-- A value is read from its text wherever one may come.
def Value.ReadBack (value : Value) : Prop :=
  ∀ (state : ReadState) (rest : List Char), state.Ready → Bounded rest →
    Reaches state (value.chars ++ rest) (.finish state.opened value.toDatum) rest

theorem reaches_string {state next : ReadState} (s : String) (rest : List Char)
    (step : ∀ here, state.step false ⟨.string (.ok s), here⟩ = .ok next) :
    Reaches state (Text.quoted s ++ rest) next rest := by
  have token : lexeme '"' (Text.encode s.toList ++ '"' :: rest) = (.string (.ok s), rest) :=
    string_encode s rest
  have shorter : rest.length ≤ (Text.encode s.toList ++ '"' :: rest).length := by
    rw [List.length_append, List.length_cons]
    omega
  have reached := reaches_token rfl token shorter (step _)
  simpa [Text.quoted] using reached

theorem bounded_items (items : List Value) (rest : List Char) :
    Bounded (Value.charsOfItems items ++ rest) := by
  cases items <;> simp [Bounded, Value.charsOfItems]

theorem bounded_fields (fields : List (String × Value)) (rest : List Char) :
    Bounded (Value.charsOfFields fields ++ rest) := by
  cases fields <;> simp [Bounded, Value.charsOfFields]

theorem reaches_items (items : List Value) (readable : ∀ item ∈ items, item.ReadBack)
    (done : List Datum) (outer : List Frame) (rest : List Char) :
    Reaches ⟨.items done :: outer, .separator, none⟩ (Value.charsOfItems items ++ rest)
      (.finish outer (.array (done.reverse ++ items.map Value.toDatum))) rest := by
  induction items generalizing done with
  | nil =>
      refine reaches_token rfl rfl (Nat.le_refl _) ?_
      simp [ReadState.step, ReadState.separator]
  | cons item others ih =>
      obtain ⟨first, later⟩ := List.forall_mem_cons.mp readable
      have comma : Reaches ⟨.items done :: outer, .separator, none⟩
          (Value.charsOfItems (item :: others) ++ rest) ⟨.items done :: outer, .item, none⟩
          (item.chars ++ (Value.charsOfItems others ++ rest)) := by
        rw [Value.charsOfItems, List.cons_append, List.append_assoc]
        exact reaches_token rfl rfl (Nat.le_refl _) rfl
      have value := first ⟨.items done :: outer, .item, none⟩ (Value.charsOfItems others ++ rest)
        (Or.inr (Or.inr rfl)) (bounded_items others rest)
      have tail := ih later (item.toDatum :: done)
      rw [List.reverse_cons, List.append_assoc] at tail
      exact comma.trans (value.trans tail)

-- A name and its value, from where a name may come.
theorem reaches_field (name : String) (value : Value) (readable : value.ReadBack)
    (done : List (Option String × Datum)) (waiting : Option String) (outer : List Frame)
    (expect : Expect) (named : expect = .firstName ∨ expect = .name) (rest : List Char)
    (bounded : Bounded rest) :
    Reaches ⟨.fields done waiting :: outer, expect, none⟩
      (Text.quoted name ++ ':' :: (value.chars ++ rest))
      ⟨.fields ((some name, value.toDatum) :: done) none :: outer, .separator, none⟩ rest := by
  have key : Reaches ⟨.fields done waiting :: outer, expect, none⟩
      (Text.quoted name ++ ':' :: (value.chars ++ rest))
      ⟨.fields done (some name) :: outer, .colon, none⟩ (':' :: (value.chars ++ rest)) := by
    refine reaches_string name _ fun here => ?_
    rcases named with rfl | rfl <;> rfl
  have colon : Reaches ⟨.fields done (some name) :: outer, .colon, none⟩
      (':' :: (value.chars ++ rest)) ⟨.fields done (some name) :: outer, .value, none⟩
      (value.chars ++ rest) := reaches_token rfl rfl (Nat.le_refl _) rfl
  have held := readable ⟨.fields done (some name) :: outer, .value, none⟩ rest (Or.inl rfl) bounded
  exact key.trans (colon.trans held)

theorem reaches_fields (fields : List (String × Value))
    (readable : ∀ field ∈ fields, field.2.ReadBack) (done : List (Option String × Datum))
    (outer : List Frame) (rest : List Char) :
    Reaches ⟨.fields done none :: outer, .separator, none⟩ (Value.charsOfFields fields ++ rest)
      (.finish outer (.object (done.reverse ++
        fields.map fun field => (some field.1, field.2.toDatum)))) rest := by
  induction fields generalizing done with
  | nil =>
      refine reaches_token rfl rfl (Nat.le_refl _) ?_
      simp [ReadState.step, ReadState.separator]
  | cons field others ih =>
      obtain ⟨first, later⟩ := List.forall_mem_cons.mp readable
      have comma : Reaches ⟨.fields done none :: outer, .separator, none⟩
          (Value.charsOfFields (field :: others) ++ rest) ⟨.fields done none :: outer, .name, none⟩
          (Text.quoted field.1 ++ ':' ::
            (field.2.chars ++ (Value.charsOfFields others ++ rest))) := by
        have written : Value.charsOfFields (field :: others) ++ rest =
            ',' :: (Text.quoted field.1 ++ ':' ::
              (field.2.chars ++ (Value.charsOfFields others ++ rest))) := by
          simp [Value.charsOfFields]
        rw [written]
        exact reaches_token rfl rfl (Nat.le_refl _) rfl
      have value := reaches_field field.1 field.2 first done none outer .name (Or.inr rfl)
        (Value.charsOfFields others ++ rest) (bounded_fields others rest)
      have tail := ih later ((some field.1, field.2.toDatum) :: done)
      rw [List.reverse_cons, List.append_assoc] at tail
      exact comma.trans (value.trans tail)

theorem Value.readBack (value : Value) (integral : value.isIntegral = true) : value.ReadBack := by
  induction value using Value.byParts with
  | null =>
      intro state rest ready _
      exact reaches_token rfl rfl (by simp; omega) (ready.step _ (by simp))
  | bool b =>
      intro state rest ready _
      cases b
      · exact reaches_token rfl rfl (by simp; omega) (ready.step _ (by simp))
      · exact reaches_token rfl rfl (by simp; omega) (ready.step _ (by simp))
  | string s =>
      intro state rest ready _
      exact reaches_string s rest fun here => ready.step _ (by simp)
  | number n =>
      intro state rest ready bounded
      cases n with
      | double d => cases integral
      | int n =>
          obtain ⟨c, more, same, visible, token⟩ := lexeme_integer n integral rest bounded
          have written : (Value.number (.int n)).chars = c :: more := same
          rw [written]
          exact reaches_token visible token (by simp) (ready.step _ (by simp))
  | array items ih =>
      intro state rest ready bounded
      have parts := (Value.isIntegral_array items).mp integral
      have opens (after : List Char) : Reaches state ('[' :: after)
          ⟨.items [] :: state.opened, .firstItem, none⟩ after :=
        reaches_token rfl rfl (Nat.le_refl _) (ready.step _ (by simp))
      cases items with
      | nil => exact (opens _).trans (reaches_token rfl rfl (Nat.le_refl _) rfl)
      | cons item others =>
          have readable (part : Value) (member : part ∈ item :: others) : part.ReadBack :=
            ih part member (parts part member)
          obtain ⟨first, later⟩ := List.forall_mem_cons.mp readable
          have head := first ⟨.items [] :: state.opened, .firstItem, none⟩
            (Value.charsOfItems others ++ rest) (Or.inr (Or.inl rfl)) (bounded_items others rest)
          have tail := reaches_items others later [item.toDatum] state.opened rest
          rw [Value.toDatum, Value.toDatums_eq, List.map_cons, Value.chars, List.cons_append,
            List.append_assoc]
          exact (opens _).trans (head.trans tail)
  | object fields ih =>
      intro state rest ready bounded
      have parts := (Value.isIntegral_object fields).mp integral
      have opens (after : List Char) : Reaches state ('\x7b' :: after)
          ⟨.fields [] none :: state.opened, .firstName, none⟩ after :=
        reaches_token rfl rfl (Nat.le_refl _) (ready.step _ (by simp))
      cases fields with
      | nil => exact (opens _).trans (reaches_token rfl rfl (Nat.le_refl _) rfl)
      | cons field others =>
          have readable (part : String × Value) (member : part ∈ field :: others) :
              part.2.ReadBack := ih part member (parts part member)
          obtain ⟨first, later⟩ := List.forall_mem_cons.mp readable
          have head := reaches_field field.1 field.2 first [] none state.opened .firstName
            (Or.inl rfl) (Value.charsOfFields others ++ rest) (bounded_fields others rest)
          have tail := reaches_fields others later [(some field.1, field.2.toDatum)] state.opened
            rest
          have written : (Value.object (field :: others)).chars ++ rest = '\x7b' ::
              (Text.quoted field.1 ++ ':' ::
                (field.2.chars ++ (Value.charsOfFields others ++ rest))) := by
            simp [Value.chars]
          rw [Value.toDatum, Value.toDatumFields_eq, List.map_cons, written]
          exact (opens _).trans (head.trans tail)

/-- What is written from integers is a clean text, and denotes what was written. -/
theorem readAhead_render (value : Value) (integral : value.isIntegral = true) :
    readAhead value.render = ⟨value.toDatum, true⟩ := by
  obtain ⟨left, _, same⟩ := value.readBack integral .start [] (Or.inl rfl) nofun
    (value.chars ++ []).length (Nat.le_refl _)
  have ended : tokensWithin left [] = [] := by cases left <;> rfl
  rw [List.append_nil, ended] at same
  rw [readAhead, Value.render, String.toList_ofList]
  exact same

theorem read_render (value : Value) (integral : value.isIntegral = true) :
    read value.render = some value.toDatum := by
  simp [read, readAhead_render value integral]

end Switchboard.Json
