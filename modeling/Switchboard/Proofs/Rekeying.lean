import Switchboard.Proofs.Keys

/-!
A change of key. It is refused where any thing has the new key, also the thing itself, and where the
thing is not stored. Otherwise one field of one record changes, and with it what is found: the new
key leads where the old one led, to the same thing and the same channel, the old key leads nowhere,
and no other lookup can tell. Connections know things by their identifiers and so are out of reach.
-/
namespace Switchboard

namespace Table
variable {α : Type}

theorem get?_modify (table : Table α) (id other : String) (change : α → α) :
    (table.modify id change).get? other =
      if other = id then (table.get? other).map change else table.get? other :=
  find?_value_changed table.entries id other change

theorem Own.mem_modify [Record α] {table : Table α} (own : table.Own) (id : String)
    (change : α → α) (record : α) :
    record ∈ (table.modify id change).records ↔
      (record ∈ table.records ∧ Record.id record ≠ id) ∨
        ∃ old ∈ table.records, Record.id old = id ∧ change old = record := by
  simp only [records, Table.modify, List.map_map, List.mem_map, Function.comp_apply]
  constructor
  · rintro ⟨entry, stored, rfl⟩
    have named := own entry stored
    by_cases hit : entry.1 = id
    · right
      exact ⟨entry.2, ⟨entry, stored, rfl⟩, named.symm.trans hit, by simp [hit]⟩
    · left
      simp only [beq_iff_eq, hit, ↓reduceIte]
      exact ⟨⟨entry, stored, rfl⟩, fun same => hit (named.trans same)⟩
  · rintro (⟨⟨entry, stored, rfl⟩, other⟩ | ⟨_, ⟨entry, stored, rfl⟩, named, rfl⟩)
    · have missed : entry.1 ≠ id := fun same => other ((own entry stored).symm.trans same)
      exact ⟨entry, stored, by simp [missed]⟩
    · have hit : entry.1 = id := (own entry stored).trans named
      exact ⟨entry, stored, by simp [hit]⟩

end Table

namespace Board

def rekey (id key : String) (board : Board) : Board :=
  { board with things := board.things.modify id fun thing => { thing with key := key } }

end Board

/-- What a change of key makes of a board: `old` is the record as it was. -/
structure KeyMoved (board : Board) (id key : String) (old : Thing) (after : Board) : Prop where
  elsewhere : after = { board with things := after.things }
  counter : after.things.counter = board.things.counter
  places : after.things.ids = board.things.ids
  record : after.thingById id = .ok { old with key := key }
  others : ∀ other, other ≠ id → after.thingById other = board.thingById other
  found : after.thingByKey key = .ok id
  lost : after.thingByKey old.key = .error .notFound
  lostConnection : after.connectionByKey old.key = .error .notFound
  connection : after.connectionByKey key = board.connectionByKey old.key
  lookups : ∀ other, other ≠ key → other ≠ old.key →
    after.thingByKey other = board.thingByKey other ∧
      after.connectionByKey other = board.connectionByKey other
  asked : ∀ channel thing, after.hasThing channel thing = board.hasThing channel thing

namespace Board
variable {board after : Board}

theorem thingByKey_cases (board : Board) (key : String) :
    (∃ id, board.thingByKey key = .ok id) ∨ board.thingByKey key = .error .notFound := by
  unfold thingByKey
  split
  · exact Or.inl ⟨_, rfl⟩
  · exact Or.inr rfl

theorem thingByKey_ext {key other : String}
    (same : ∀ id, after.thingByKey key = .ok id ↔ board.thingByKey other = .ok id) :
    after.thingByKey key = board.thingByKey other := by
  rcases board.thingByKey_cases other with ⟨id, found⟩ | absent
  · exact found ▸ (same id).mpr found
  · rcases after.thingByKey_cases key with ⟨id, found⟩ | alsoAbsent
    · rw [(same id).mp found] at absent
      cases absent
    · exact alsoAbsent.trans absent.symm

theorem connectionByKey_congr {key other : String}
    (same : after.thingByKey key = board.thingByKey other)
    (placed : after.placement = board.placement) :
    after.connectionByKey key = board.connectionByKey other := by
  simp only [connectionByKey, placedChannels, same, placed]

theorem hasThing_congr (placed : after.placement = board.placement) (channel thing : String) :
    after.hasThing channel thing = board.hasThing channel thing := by
  rw [hasThing_eq, hasThing_eq, placed]

end Board

/-- A stored thing may be given a key: nobody has it, and all keys differ as it is. -/
structure Rekeyable (board : Board) (id key : String) (old : Thing) : Prop where
  own : board.things.Own
  distinct : board.things.ids.Nodup
  apart : board.things.KeysApart
  stored : board.things.get? id = some old
  free : ∀ thing ∈ board.things.records, thing.key ≠ key

namespace Rekeyable
variable {board : Board} {id key : String} {old : Thing}

theorem held (may : Rekeyable board id key old) : old ∈ board.things.records ∧ old.id = id :=
  (may.own.get?_iff may.distinct id old).mp may.stored

theorem itself (may : Rekeyable board id key old) {thing : Thing}
    (stored : thing ∈ board.things.records) (named : thing.id = id) : thing = old :=
  List.inj_on_of_nodup_map (may.own.records_distinct may.distinct) stored may.held.1
    (named.trans may.held.2.symm)

theorem mem_records (may : Rekeyable board id key old) (thing : Thing) :
    thing ∈ (board.rekey id key).things.records ↔
      (thing ∈ board.things.records ∧ thing.id ≠ id) ∨ thing = { old with key := key } := by
  rw [Board.rekey, may.own.mem_modify]
  apply or_congr_right
  constructor
  · rintro ⟨other, stored, named, rfl⟩
    rw [may.itself stored named]
  · rintro rfl
    exact ⟨old, may.held.1, may.held.2, rfl⟩

theorem apart_after (may : Rekeyable board id key old) :
    (board.rekey id key).things.KeysApart := by
  apply may.apart.modify may.distinct
  intro entry _ _
  right
  intro used
  obtain ⟨thing, stored, same⟩ := List.mem_map.mp used
  exact may.free thing stored same

theorem keeper (may : Rekeyable board id key old) {thing : Thing}
    (stored : thing ∈ board.things.records) (same : thing.key = old.key) : thing.id = id := by
  rw [List.inj_on_of_nodup_map may.apart stored may.held.1 same]
  exact may.held.2

theorem before (may : Rekeyable board id key old) : board.thingByKey old.key = .ok id :=
  (Board.thingByKey_ok_iff may.apart _ _).mpr ⟨old, may.held.1, may.held.2, rfl⟩

theorem found (may : Rekeyable board id key old) :
    (board.rekey id key).thingByKey key = .ok id := by
  apply (Board.thingByKey_ok_iff may.apart_after _ _).mpr
  exact ⟨{ old with key := key }, (may.mem_records _).mpr (Or.inr rfl), may.held.2, rfl⟩

theorem lost (may : Rekeyable board id key old) :
    (board.rekey id key).thingByKey old.key = .error .notFound := by
  apply (Board.thingByKey_notFound_iff _ _).mpr
  intro thing stored
  rcases (may.mem_records thing).mp stored with ⟨kept, other⟩ | rfl
  · exact fun same => other (may.keeper kept same)
  · exact (may.free old may.held.1).symm

theorem elsewhere (may : Rekeyable board id key old) {other : String} (new : other ≠ key)
    (gone : other ≠ old.key) :
    (board.rekey id key).thingByKey other = board.thingByKey other := by
  apply Board.thingByKey_ext
  intro known
  rw [Board.thingByKey_ok_iff may.apart_after, Board.thingByKey_ok_iff may.apart]
  constructor
  · rintro ⟨thing, stored, rfl, rfl⟩
    rcases (may.mem_records thing).mp stored with ⟨kept, _⟩ | rfl
    · exact ⟨thing, kept, rfl, rfl⟩
    · exact absurd rfl new
  · rintro ⟨thing, stored, rfl, rfl⟩
    have different : thing.id ≠ id :=
      fun named => gone (congrArg Thing.key (may.itself stored named))
    exact ⟨thing, (may.mem_records thing).mpr (Or.inl ⟨stored, different⟩), rfl, rfl⟩

theorem moves (may : Rekeyable board id key old) :
    KeyMoved board id key old (board.rekey id key) where
  elsewhere := rfl
  counter := rfl
  places := Table.ids_modify _ _ _
  record := by
    rw [Board.thingById, Table.retrieve_ok_iff, Board.rekey, Table.get?_modify, if_pos rfl,
      may.stored]
    rfl
  others other different := by
    rw [Board.thingById, Board.thingById, Table.retrieve, Table.retrieve, Board.rekey,
      Table.get?_modify, if_neg different]
  found := may.found
  lost := may.lost
  lostConnection := Board.connectionByKey_error _ _ _ may.lost
  connection := Board.connectionByKey_congr (may.found.trans may.before.symm) rfl
  lookups _ new gone :=
    ⟨may.elsewhere new gone, Board.connectionByKey_congr (may.elsewhere new gone) rfl⟩
  asked := Board.hasThing_congr rfl

end Rekeyable

namespace Board

theorem keyInUse_iff (board : Board) (key : String) :
    board.keyInUse key = true ↔ ∃ thing ∈ board.things.records, thing.key = key := by
  simp only [keyInUse, List.contains_iff_mem, List.mem_map]

/-- The keys of all things are looked through before the thing is looked for. -/
theorem updateKey_eq (id key : String) (board : Board) :
    board.updateKey id key =
      if ∃ thing ∈ board.things.records, thing.key = key then (board, .refused .conflict)
      else if id ∈ board.things.ids then (board.rekey id key, .done ())
      else (board, .refused .notFound) := by
  simp only [updateKey, board.keyInUse_iff, Table.contains_iff, rekey]

end Board

/-- After every history that leaves the keys apart, a change of key is refused as a conflict exactly
where a stored thing has the new key, else as unknown exactly where the thing is not stored, and a
refusal changes nothing. Otherwise the key of that one record changes, and the lookup by key moves
with it. -/
theorem key_change_moves (capacity : Nat) (steps : List Step) (id key : String)
    (apart : (Chronicle.ofSteps capacity steps).board.things.KeysApart) :
    let board := (Chronicle.ofSteps capacity steps).board
    let answer := board.updateKey id key
    (answer.2 = .refused .conflict ↔ ∃ thing ∈ board.things.records, thing.key = key) ∧
    (answer.2 = .refused .notFound ↔
      (¬ ∃ thing ∈ board.things.records, thing.key = key) ∧ id ∉ board.things.ids) ∧
    ((∃ error, answer = (board, .refused error)) ∨
      ∃ old, board.thingById id = .ok old ∧ answer.2 = .done () ∧
        KeyMoved board id key old answer.1) := by
  intro board answer
  have things := (Register.ofSteps_faithful capacity steps).1
  rw [Register.ofSteps_board] at things
  have decided : answer = _ := board.updateKey_eq id key
  by_cases used : ∃ thing ∈ board.things.records, thing.key = key
  · rw [if_pos used] at decided
    rw [decided]
    exact ⟨by simp [used], by simp [used], Or.inl ⟨_, rfl⟩⟩
  · rw [if_neg used] at decided
    cases stored : board.things.get? id with
    | none =>
        have absent : id ∉ board.things.ids := (Table.get?_eq_none_iff _ _).mp stored
        rw [if_neg absent] at decided
        rw [decided]
        exact ⟨by simp [used], by simp [used, absent], Or.inl ⟨_, rfl⟩⟩
    | some old =>
        have held : id ∈ board.things.ids := Table.get?_stored _ _ _ stored
        rw [if_pos held] at decided
        rw [decided]
        have may : Rekeyable board id key old := {
          own := things.own
          distinct := things.distinct
          apart := apart
          stored := stored
          free := fun thing kept same => used ⟨thing, kept, same⟩ }
        refine ⟨by simp [used], by simp [held], Or.inr ⟨old, ?_, rfl, may.moves⟩⟩
        exact (Table.retrieve_ok_iff _ _ _).mpr stored

def wired : List Step :=
  [.change (.saveChannels [{ id := "c" }])] ++ pair ++ [.change (.connect "c" ["t"])]

theorem key_change_moves_wired :
    let board := (Chronicle.ofSteps 1 wired).board
    let after := (board.updateKey "t" "m").1
    board.things.KeysApart ∧ board.connectionByKey "k" = .ok ⟨"c", "t"⟩ ∧
      KeyMoved board "t" "m" { id := "t", key := "k" } after ∧
      after.connectionByKey "m" = .ok ⟨"c", "t"⟩ ∧
      (board.updateKey "t" "k").2 = .refused .conflict := by
  intro board after
  have apart : board.things.KeysApart := by decide
  have connected : board.connectionByKey "k" = .ok ⟨"c", "t"⟩ := rfl
  obtain ⟨_, _, outcome⟩ := key_change_moves 1 wired "t" "m" apart
  have moved : KeyMoved board "t" "m" { id := "t", key := "k" } after := by
    rcases outcome with ⟨error, refused⟩ | ⟨old, known, _, moved⟩
    · cases congrArg Prod.snd refused
    · cases known
      exact moved
  have own : (board.updateKey "t" "k").2 = .refused .conflict := by
    apply (key_change_moves 1 wired "t" "k" apart).1.mpr
    exact ⟨{ id := "t", key := "k" }, List.mem_cons_self, rfl⟩
  exact ⟨apart, connected, moved, moved.connection.trans connected, own⟩

end Switchboard
