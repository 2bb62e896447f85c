import Mathlib.Data.List.Induction
import Mathlib.Data.List.Perm.Basic
import Switchboard.Http.Client
import Switchboard.Proofs.Rows

/-!
How the order of the headers bears on a request. The caller gives them as entries of a map, in
whatever order the map has them. A bad method, too many entries and a bad address come to the same
in every order. Where entries are bad, the refusal names the first of them; where names are equal
apart from case, the value given last is sent. So two orders can differ, but only in these two ways.
-/
namespace Switchboard.Http

namespace Header

def ofEntry (pair : String × String) : Header := ⟨lowerName pair.1, pair.2⟩

def lastGiven? (name : String) (pairs : List (String × String)) : Option String :=
  (pairs.reverse.find? fun pair => lowerName pair.1 == name).map (·.2)

/-- No two of the entries have the same name apart from case. -/
def CaseApart (pairs : List (String × String)) : Prop :=
  ∀ pair ∈ pairs, ∀ other ∈ pairs, lowerName pair.1 = lowerName other.1 → pair = other

theorem hasName_iff {name : String} {headers : List Header} :
    hasName name headers = true ↔ ∃ header ∈ headers, header.name = name := by
  simp [hasName]

theorem mem_put {header other : Header} {headers : List Header} :
    other ∈ put header headers ↔ other = header ∨ (other ∈ headers ∧ other.name ≠ header.name) := by
  unfold put
  split_ifs with named
  · obtain ⟨old, member, same⟩ := hasName_iff.mp named
    rw [List.mem_map]
    constructor
    · rintro ⟨before, inside, rfl⟩
      by_cases hit : before.name = header.name
      · exact .inl (if_pos (beq_iff_eq.mpr hit))
      · rw [if_neg (by simpa using hit)]
        exact .inr ⟨inside, hit⟩
    · rintro (rfl | ⟨inside, differs⟩)
      · exact ⟨old, member, if_pos (beq_iff_eq.mpr same)⟩
      · exact ⟨other, inside, if_neg (by simpa using differs)⟩
  · have fresh : other ∈ headers → other.name ≠ header.name := fun inside same =>
      named (hasName_iff.mpr ⟨other, inside, same⟩)
    rw [List.mem_append, List.mem_singleton]
    tauto

theorem lastGiven?_mem {name value : String} {pairs : List (String × String)}
    (given : lastGiven? name pairs = some value) :
    ∃ pair ∈ pairs, lowerName pair.1 = name ∧ pair.2 = value := by
  obtain ⟨pair, found, rfl⟩ := Option.map_eq_some_iff.mp given
  obtain ⟨member, named⟩ := find?_key found
  exact ⟨pair, List.mem_reverse.mp member, named, rfl⟩

theorem lastGiven?_none {name : String} {pairs : List (String × String)} :
    lastGiven? name pairs = none ↔ ∀ pair ∈ pairs, lowerName pair.1 ≠ name := by
  simp [lastGiven?]

theorem lastGiven?_alone {pair : String × String} {pairs : List (String × String)}
    (member : pair ∈ pairs)
    (alone : ∀ other ∈ pairs, lowerName other.1 = lowerName pair.1 → other = pair) :
    lastGiven? (lowerName pair.1) pairs = some pair.2 := by
  cases given : lastGiven? (lowerName pair.1) pairs with
  | none => exact absurd rfl (lastGiven?_none.mp given pair member)
  | some value =>
      obtain ⟨other, inside, named, rfl⟩ := lastGiven?_mem given
      rw [alone other inside named]

theorem lastGiven?_iff {pairs : List (String × String)} (apart : CaseApart pairs)
    {name value : String} :
    lastGiven? name pairs = some value ↔
      ∃ pair ∈ pairs, lowerName pair.1 = name ∧ pair.2 = value := by
  refine ⟨lastGiven?_mem, ?_⟩
  rintro ⟨pair, member, rfl, rfl⟩
  exact lastGiven?_alone member fun other inside same => apart other inside pair member same

def putAll (pairs : List (String × String)) : List Header := putEach (pairs.map ofEntry) []

/-- Headers that hold each name once, with the value that the entries give for it last. Besides the
names of the entries there is nothing but the content type, as JSON, and what the address says of
the caller, each where no entry gives it. -/
structure Carry (address : Url) (pairs : List (String × String)) (headers : List Header) : Prop where
  once : (headers.map (·.name)).Nodup
  exactly : ∀ header, header ∈ headers ↔
    lastGiven? header.name pairs = some header.value ∨
      ((header = jsonContent ∨ ofCredentials address.credentials = some header) ∧
        ∀ pair ∈ pairs, lowerName pair.1 ≠ header.name)

def carried (address : Url) (pairs : List (String × String)) : List Header :=
  putEach (putDefault jsonContent (putAll pairs)) (ofCredentials address.credentials).toList

namespace Carry

variable {address : Url} {pairs other : List (String × String)} {headers others : List Header}

theorem present (carry : Carry address pairs headers) {pair : String × String}
    (member : pair ∈ pairs)
    (alone : ∀ twin ∈ pairs, lowerName twin.1 = lowerName pair.1 → twin = pair) :
    ofEntry pair ∈ headers :=
  (carry.exactly _).mpr (.inl (lastGiven?_alone member alone))

def ownNames (address : Url) : List String :=
  jsonContent.name :: (ofCredentials address.credentials).toList.map (·.name)

theorem names (carry : Carry address pairs headers) (name : String) :
    name ∈ headers.map (·.name) ↔
      name ∈ ownNames address ∨ ∃ pair ∈ pairs, lowerName pair.1 = name := by
  have own : name ∈ ownNames address ↔
      ∃ header, (header = jsonContent ∨ ofCredentials address.credentials = some header) ∧
        header.name = name := by
    simp [ownNames, or_and_right, exists_or, eq_comm]
  rw [own, List.mem_map]
  constructor
  · rintro ⟨header, member, rfl⟩
    rcases (carry.exactly header).mp member with given | ⟨added, _⟩
    · obtain ⟨pair, inside, named, _⟩ := lastGiven?_mem given
      exact .inr ⟨pair, inside, named⟩
    · exact .inl ⟨header, added, rfl⟩
  · intro named
    cases given : lastGiven? name pairs with
    | some value => exact ⟨⟨name, value⟩, (carry.exactly _).mpr (.inl given), rfl⟩
    | none =>
        have absent := lastGiven?_none.mp given
        rcases named with ⟨header, added, rfl⟩ | ⟨pair, inside, hit⟩
        · exact ⟨header, (carry.exactly _).mpr (.inr ⟨added, absent⟩), rfl⟩
        · exact absurd hit (absent pair inside)

theorem perm (carry : Carry address pairs headers) (carries : Carry address other others)
    (reordered : pairs.Perm other) (apart : CaseApart pairs) : headers.Perm others := by
  have apartToo : CaseApart other := fun pair member twin inside =>
    apart pair (reordered.mem_iff.mpr member) twin (reordered.mem_iff.mpr inside)
  refine (List.perm_ext_iff_of_nodup (.of_map _ carry.once) (.of_map _ carries.once)).mpr ?_
  intro header
  rw [carry.exactly, carries.exactly, lastGiven?_iff apart, lastGiven?_iff apartToo]
  simp only [reordered.mem_iff]

end Carry
end Header

namespace Request

open Header

end Request
end Switchboard.Http
