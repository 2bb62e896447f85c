import Switchboard.Proofs.Register

/-!
Access keys. A save and a change of key look through the keys of all stored things first, and a
removal only takes keys away. An update is trusted with the key that it brings; as long as it brings
the one that the record has, no two stored things have one key, and the first thing that is found
under a key is the only one.
-/
namespace Switchboard

theorem Board.keysFree_iff (table : Table Thing) (batch : List Thing) :
    Board.keysFree table batch = true ↔
      (batch.map Thing.key).Nodup ∧
        ∀ thing ∈ batch, ∀ other ∈ table.records, other.key ≠ thing.key := by
  have new (thing : Thing) : (!(table.records.map Thing.key).contains thing.key) = true ↔
      ∀ other ∈ table.records, other.key ≠ thing.key := by
    rw [Bool.not_eq_true', List.contains_eq_mem, decide_eq_false_iff_not, List.mem_map, not_exists]
    exact forall_congr' fun other => not_and
  rw [Board.keysFree, Bool.and_eq_true, List.all_eq_true, decide_eq_true_eq, and_comm]
  exact and_congr_right fun _ => forall₂_congr fun thing _ => new thing

namespace Table

def KeysApart (table : Table Thing) : Prop := (table.records.map Thing.key).Nodup

instance (table : Table Thing) : Decidable table.KeysApart :=
  inferInstanceAs (Decidable (List.Nodup _))

variable {table : Table Thing}

theorem keysApart_iff :
    table.KeysApart ↔ table.entries.Pairwise fun a b => a.2.key ≠ b.2.key := by
  simp only [KeysApart, records, List.Nodup, List.pairwise_map]

theorem KeysApart.erase (apart : table.KeysApart) (id : String) : (table.erase id).KeysApart :=
  List.Nodup.sublist ((List.filter_sublist.map Prod.snd).map Thing.key) apart

-- The stored records have the keys of the batch, whatever identifiers they were given.
theorem KeysApart.insertBatch (apart : table.KeysApart) (batch stored : List Thing)
    (after : Table Thing) (free : Board.keysFree table batch = true)
    (done : table.insertBatch batch = .ok (stored, after)) : after.KeysApart := by
  obtain ⟨once, unused⟩ := (Board.keysFree_iff table batch).mp free
  have same : stored.map Thing.key = batch.map Thing.key :=
    insertBatch_map Thing.key (fun _ _ => rfl) table after batch stored done
  unfold KeysApart
  rw [insertBatch_records table after batch stored done, List.map_append, same]
  apply List.Nodup.append apart once
  intro key old new
  obtain ⟨thing, given, rfl⟩ := List.mem_map.mp new
  obtain ⟨other, stored, same⟩ := List.mem_map.mp old
  exact unused thing given other stored same

-- Two entries are under different identifiers, so at most one of them is changed.
theorem KeysApart.modify (apart : table.KeysApart) (distinct : table.ids.Nodup) (id : String)
    (change : Thing → Thing)
    (fits : ∀ entry ∈ table.entries, entry.1 = id → (change entry.2).key = entry.2.key ∨
      (change entry.2).key ∉ table.records.map Thing.key) :
    (table.modify id change).KeysApart := by
  have keys := keysApart_iff.mp apart
  have ids : table.entries.Pairwise fun a b => a.1 ≠ b.1 := List.pairwise_map.mp distinct
  have known {entry : String × Thing} (member : entry ∈ table.entries) :
      entry.2.key ∈ table.records.map Thing.key :=
    List.mem_map.mpr ⟨entry.2, List.mem_map.mpr ⟨entry, member, rfl⟩, rfl⟩
  apply keysApart_iff.mpr
  apply List.pairwise_map.mpr
  apply (keys.and ids).imp_of_mem
  rintro a b aStored bStored ⟨apartKeys, apartIds⟩
  by_cases aHit : a.1 = id
  · have bMissed : b.1 ≠ id := fun same => apartIds (aHit.trans same.symm)
    simp only [aHit, bMissed, beq_iff_eq, ↓reduceIte]
    rcases fits a aStored aHit with same | fresh
    · exact same ▸ apartKeys
    · exact fun same => fresh (same ▸ known bStored)
  · by_cases bHit : b.1 = id
    · simp only [aHit, bHit, beq_iff_eq, ↓reduceIte]
      rcases fits b bStored bHit with same | fresh
      · exact same ▸ apartKeys
      · exact fun same => fresh (same ▸ known aStored)
    · simpa only [aHit, bHit, beq_iff_eq, ↓reduceIte] using apartKeys

theorem KeysApart.find?_iff (apart : table.KeysApart) (key : String) (thing : Thing) :
    (table.records.find? fun thing => thing.key == key) = some thing ↔
      thing ∈ table.records ∧ thing.key = key :=
  find?_key_iff apart

end Table

/-- An update that is carried out and gives a record another key. -/
def Step.Rekeys (board : Board) : Step → Prop
  | .change (.updateThing thing) =>
    ∃ old, board.thingById thing.id = .ok old ∧ thing.key ≠ old.key
  | _ => False

/-- No update of these steps gives a record another key. -/
def KeepsKeys : List Step → Chronicle → Prop
  | [], _ => True
  | step :: rest, chronicle =>
    ¬ step.Rekeys chronicle.board ∧ KeepsKeys rest (chronicle.step step)

namespace Board
variable {board : Board}

theorem saveThings_apart (batch : List Thing) (apart : board.things.KeysApart) :
    (board.saveThings batch).1.things.KeysApart := by
  unfold saveThings
  split
  next free =>
    cases inserted : board.things.insertBatch batch with
    | error error => exact apart
    | ok stored => exact apart.insertBatch batch stored.1 stored.2 free inserted
  next => exact apart

theorem updateThing_apart (thing : Thing) (own : board.things.Own)
    (distinct : board.things.ids.Nodup) (apart : board.things.KeysApart)
    (trusted : ¬ (Step.change (.updateThing thing)).Rekeys board) :
    (board.updateThing thing).1.things.KeysApart := by
  unfold updateThing
  rcases Table.replace_eq board.things thing with ⟨_, done⟩ | ⟨_, failed⟩
  · rw [done]
    apply apart.modify distinct
    intro entry member named
    left
    by_contra different
    have found : board.things.get? thing.id = some entry.2 := by
      apply (own.get?_iff distinct _ _).mpr
      exact ⟨List.mem_map.mpr ⟨entry, member, rfl⟩, (own entry member).symm.trans named⟩
    exact trusted ⟨entry.2, by simp [thingById, Table.retrieve, found], different⟩
  · rw [failed]
    exact apart

theorem updateKey_apart (id key : String) (distinct : board.things.ids.Nodup)
    (apart : board.things.KeysApart) : (board.updateKey id key).1.things.KeysApart := by
  unfold updateKey
  split
  next => exact apart
  next unused =>
    split
    next =>
      apply apart.modify distinct
      intro entry _ _
      right
      simpa [keyInUse] using unused
    next => exact apart

theorem removeThing_apart (id : String) (board : Board) (apart : board.things.KeysApart) :
    (removeThing id board).1.things.KeysApart := by
  rcases removeThing_takesOut id board with ⟨_, erased⟩ | ⟨_, same⟩
  · exact erased ▸ apart.erase id
  · exact same ▸ apart

theorem thingByKey_notFound_iff (board : Board) (key : String) :
    board.thingByKey key = .error .notFound ↔
      ∀ thing ∈ board.things.records, thing.key ≠ key := by
  unfold thingByKey
  cases found : board.things.records.find? fun thing => thing.key == key with
  | none => simpa using found
  | some first =>
      have hit : first.key = key := by simpa using List.find?_some found
      have member := List.mem_of_find?_eq_some found
      simp only [reduceCtorEq, false_iff, not_forall]
      exact ⟨first, member, fun other => other hit⟩

theorem thingByKey_ok_iff (apart : board.things.KeysApart) (key id : String) :
    board.thingByKey key = .ok id ↔
      ∃ thing ∈ board.things.records, thing.id = id ∧ thing.key = key := by
  have found := apart.find?_iff key
  unfold thingByKey
  constructor
  · intro answered
    split at answered
    next thing first =>
      obtain ⟨member, keyed⟩ := (found thing).mp first
      exact ⟨thing, member, Except.ok.inj answered, keyed⟩
    next => cases answered
  · rintro ⟨thing, member, rfl, keyed⟩
    rw [(found thing).mpr ⟨member, keyed⟩]

end Board

theorem Change.run_apart (change : Change) (board : Board) (own : board.things.Own)
    (distinct : board.things.ids.Nodup) (apart : board.things.KeysApart)
    (trusted : ¬ (Step.change change).Rekeys board) :
    (change.run board).1.things.KeysApart := by
  have still {after : Board} (same : after.things = board.things) : after.things.KeysApart :=
    same ▸ apart
  cases change with
  | saveThings batch => exact Board.saveThings_apart batch apart
  | updateThing thing => exact Board.updateThing_apart thing own distinct apart trusted
  | updateKey id key => exact Board.updateKey_apart id key distinct apart
  | removeThings ids =>
      exact Board.inTurn_preserves (fun board => board.things.KeysApart) _ Board.removeThing_apart
        ids board apart
  | saveChannels batch =>
      simp only [run, Board.saveChannels]
      cases board.channels.insertBatch batch with
      | error error => exact apart
      | ok stored => exact apart
  | updateChannel channel =>
      simp only [run, withoutResult, Board.updateChannel]
      cases board.channels.replace channel with
      | error error => exact apart
      | ok table => exact apart
  | removeChannels ids =>
      exact still (Board.inTurn_keeps Board.things _ Board.removeChannel_things ids board)
  | connect channel things =>
      simp only [run, withoutResult, Board.connect]
      split
      · have same := Board.inTurn_keeps Board.tables _ (Board.connectThing_tables channel) things
          board
        exact still (Board.things_of_tables same)
      · exact apart
  | disconnect channel things =>
      have same := Board.inTurn_keeps Board.tables _ (Board.disconnectThing_tables channel) things
        board
      exact still (Board.things_of_tables same)

theorem Chronicle.step_apart (chronicle : Chronicle) (step : Step)
    (own : chronicle.board.things.Own) (distinct : chronicle.board.things.ids.Nodup)
    (apart : chronicle.board.things.KeysApart) (trusted : ¬ step.Rekeys chronicle.board) :
    (chronicle.step step).board.things.KeysApart := by
  have still (same : (chronicle.step step).board.tables = chronicle.board.tables) :
      (chronicle.step step).board.things.KeysApart := by
    rwa [Board.things_of_tables same]
  cases step with
  | change change => exact change.run_apart chronicle.board own distinct apart trusted
  | flush ticket => exact still (chronicle.step_tables (.flush ticket) nofun)
  | consume => exact still (chronicle.step_tables .consume nofun)
  | sealOff => exact still (chronicle.step_tables .sealOff nofun)

theorem keepsKeys_append (steps : List Step) (next : Step) (chronicle : Chronicle) :
    KeepsKeys (steps ++ [next]) chronicle ↔
      KeepsKeys steps chronicle ∧ ¬ next.Rekeys (chronicle.play steps).board := by
  induction steps generalizing chronicle with
  | nil => simp [KeepsKeys, Chronicle.play]
  | cons step rest ih =>
      change _ ∧ KeepsKeys (rest ++ [next]) (chronicle.step step) ↔
        (_ ∧ KeepsKeys rest (chronicle.step step)) ∧ _
      rw [ih (chronicle.step step), and_assoc]
      rfl

theorem ofSteps_step_apart (capacity : Nat) (steps : List Step) (next : Step)
    (apart : (Chronicle.ofSteps capacity steps).board.things.KeysApart)
    (trusted : ¬ next.Rekeys (Chronicle.ofSteps capacity steps).board) :
    (Chronicle.ofSteps capacity (steps ++ [next])).board.things.KeysApart := by
  have things := (Register.ofSteps_faithful capacity steps).1
  rw [Register.ofSteps_board] at things
  rw [Chronicle.ofSteps, Chronicle.play, List.foldl_append]
  exact Chronicle.step_apart _ next things.own things.distinct apart trusted

theorem ofSteps_apart (capacity : Nat) (steps : List Step)
    (trusted : KeepsKeys steps ⟨.ofCapacity capacity, []⟩) :
    (Chronicle.ofSteps capacity steps).board.things.KeysApart := by
  induction steps using List.reverseRecOn with
  | nil => exact List.nodup_nil
  | append_singleton steps next ih =>
      obtain ⟨before, now⟩ := (keepsKeys_append steps next _).mp trusted
      exact ofSteps_step_apart capacity steps next (ih before) now

/-- Keys stay apart along every history whose updates bring the keys that the records have, and
then a key is found exactly where it is. Whatever was done before, only an update with another key
can bring two things to one key. -/
theorem keys_exact (capacity : Nat) (steps : List Step) :
    let board := (Chronicle.ofSteps capacity steps).board
    (KeepsKeys steps ⟨.ofCapacity capacity, []⟩ →
      board.things.KeysApart ∧ ∀ key,
        (∀ id, board.thingByKey key = .ok id ↔
          ∃ thing ∈ board.things.records, thing.id = id ∧ thing.key = key) ∧
        (board.thingByKey key = .error .notFound ↔
          ∀ thing ∈ board.things.records, thing.key ≠ key)) ∧
    ∀ next, board.things.KeysApart →
      ¬ (Chronicle.ofSteps capacity (steps ++ [next])).board.things.KeysApart →
        next.Rekeys board := by
  intro board
  constructor
  · intro trusted
    have apart : board.things.KeysApart := ofSteps_apart capacity steps trusted
    refine ⟨apart, fun key => ⟨fun id => ?_, ?_⟩⟩
    · exact Board.thingByKey_ok_iff apart key id
    · exact board.thingByKey_notFound_iff key
  · intro next apart shared
    by_contra trusted
    exact shared (ofSteps_step_apart capacity steps next apart trusted)

def pair : List Step :=
  [.change (.saveThings [{ id := "t", key := "k" }, { id := "u", key := "l" }])]

def borrow : Step := .change (.updateThing { id := "u", key := "k" })

def rekeyed : List Step :=
  pair ++ [.change (.updateThing { id := "t", name := "door", key := "k" }),
    .change (.updateKey "t" "m"), .change (.saveThings [{ id := "v", key := "k" }]),
    .change (.removeThings ["u"])]

theorem keys_exact_rekeyed :
    (KeepsKeys rekeyed ⟨.ofCapacity 1, []⟩ ∧
      (Chronicle.ofSteps 1 rekeyed).board.things.KeysApart ∧
      ((Chronicle.ofSteps 1 rekeyed).board.thingByKey "k" = .ok "v" ↔
        ∃ thing ∈ (Chronicle.ofSteps 1 rekeyed).board.things.records,
          thing.id = "v" ∧ thing.key = "k")) ∧
    (Chronicle.ofSteps 1 pair).board.things.KeysApart ∧
      ¬ (Chronicle.ofSteps 1 (pair ++ [borrow])).board.things.KeysApart ∧
      borrow.Rekeys (Chronicle.ofSteps 1 pair).board := by
  have trusted : KeepsKeys rekeyed ⟨.ofCapacity 1, []⟩ := by
    refine ⟨id, ?_, id, id, id, trivial⟩
    rintro ⟨old, found, different⟩
    cases found
    exact different rfl
  obtain ⟨apart, found⟩ := (keys_exact 1 rekeyed).1 trusted
  have before : (Chronicle.ofSteps 1 pair).board.things.KeysApart := by decide
  have after : ¬ (Chronicle.ofSteps 1 (pair ++ [borrow])).board.things.KeysApart := by decide
  exact ⟨⟨trusted, apart, (found "k").1 "v"⟩, before, after,
    (keys_exact 1 pair).2 borrow before after⟩

end Switchboard
