import Mathlib.Data.List.Basic
import Std.Data.HashMap.Lemmas

/-! # A table of answers

A table that is asked in front of a slow source of answers, which need not answer alike twice. It remembers an answer
while it has room, and forgets none. -/

namespace Utiputils.Lib

variable {κ ν : Type}

namespace Memo

section

variable [BEq κ]

/-- The first keys that are asked, as many as there is room for. -/
def firsts (room : Nat) (answered : List (κ × ν)) : List κ := (answered.map Prod.fst).eraseDups.take room

variable {room : Nat} {answered : List (κ × ν)} {key : κ} {value : ν}

/-- While there is room, all keys are among the first ones. -/
theorem firsts_of_room (space : (firsts room answered).length < room) :
    firsts room answered = (answered.map Prod.fst).eraseDups := by
  rw [firsts, List.length_take] at space
  exact List.take_of_length_le (by omega)

variable [LawfulBEq κ]

theorem mem_of_firsts (member : key ∈ firsts room answered) : key ∈ answered.map Prod.fst :=
  List.mem_eraseDups.mp (List.mem_of_mem_take member)

theorem firsts_again (asked : key ∈ answered.map Prod.fst) :
    firsts room (answered ++ [(key, value)]) = firsts room answered := by
  have nothing : [key].removeAll (answered.map Prod.fst) = [] := by
    rw [List.removeAll, List.filter_eq_nil_iff]
    simpa using asked
  rw [firsts, List.map_append, List.eraseDups_append]
  show (_ ++ ([key].removeAll (answered.map Prod.fst)).eraseDups).take room = _
  rw [nothing, List.eraseDups_nil, List.append_nil]
  rfl

theorem firsts_new (fresh : key ∉ answered.map Prod.fst) :
    firsts room (answered ++ [(key, value)]) = ((answered.map Prod.fst).eraseDups ++ [key]).take room := by
  have alone : [key].removeAll (answered.map Prod.fst) = [key] := by
    rw [List.removeAll, List.filter_eq_self]
    simpa using fresh
  rw [firsts, List.map_append, List.eraseDups_append]
  show (_ ++ ([key].removeAll (answered.map Prod.fst)).eraseDups).take room = _
  rw [alone]
  rfl

theorem firsts_of_full (full : ¬ (firsts room answered).length < room) :
    firsts room (answered ++ [(key, value)]) = firsts room answered := by
  by_cases asked : key ∈ answered.map Prod.fst
  · exact firsts_again asked
  · rw [firsts, List.length_take] at full
    rw [firsts_new asked, List.take_append_of_le_length (by omega)]
    rfl

end

end Memo

/-- The table, and the keys that were looked up in the source, in their order. -/
structure Memo (κ ν : Type) [BEq κ] [Hashable κ] where
  table : Std.HashMap κ ν := ∅
  lookups : List κ := []

namespace Memo

section

variable [BEq κ] [Hashable κ] (room : Nat) (source : Nat → κ → ν)

/-- A question. What the source answers may depend on the number of lookups before. -/
def ask (memo : Memo κ ν) (key : κ) : ν × Memo κ ν :=
  match memo.table[key]? with
  | some value => (value, memo)
  | none =>
    let value := source memo.lookups.length key
    let table := if memo.table.size < room then memo.table.insert key value else memo.table
    (value, { table, lookups := memo.lookups ++ [key] })

/-- What holds of the answers and the table. -/
structure Sound (answered : List (κ × ν)) (memo : Memo κ ν) : Prop where
  known : ∀ key, key ∈ memo.table ↔ key ∈ firsts room answered
  size : memo.table.size = (firsts room answered).length
  /-- every answer comes from a lookup of its key -/
  honest : ∀ pair ∈ answered, ∃ index, memo.lookups[index]? = some pair.1 ∧ pair.2 = source index pair.1
  /-- a key of the table has the same answer always -/
  stable : ∀ pair ∈ answered, pair.1 ∈ memo.table → memo.table[pair.1]? = some pair.2
  /-- and is looked up once, the others each time -/
  frugal : ∀ key, memo.lookups.count key = if key ∈ memo.table then 1 else (answered.map Prod.fst).count key

end

section

variable [BEq κ] [Hashable κ] [LawfulBEq κ] {room : Nat} {source : Nat → κ → ν} {answered : List (κ × ν)}
  {memo : Memo κ ν} {key : κ} {value : ν}

theorem sound_start : Sound room source [] ({} : Memo κ ν) where
  known key := by simp [firsts]
  size := by simp [firsts]
  honest := by simp
  stable := by simp
  frugal key := by simp

omit [LawfulBEq κ] in
/-- Another lookup. -/
theorem Sound.honest_lookup (sound : Sound room source answered memo) (key : κ) :
    ∀ pair ∈ answered ++ [(key, source memo.lookups.length key)],
      ∃ index, (memo.lookups ++ [key])[index]? = some pair.1 ∧ pair.2 = source index pair.1 := by
  intro pair member
  rcases List.mem_append.mp member with before | last
  · obtain ⟨index, looked, answer⟩ := sound.honest pair before
    have below : index < memo.lookups.length := (List.getElem?_eq_some_iff.mp looked).1
    exact ⟨index, by rwa [List.getElem?_append_left below], answer⟩
  · rw [List.mem_singleton.mp last]
    exact ⟨memo.lookups.length, List.getElem?_concat_length, rfl⟩

/-- The key is in the table. -/
theorem Sound.hit (sound : Sound room source answered memo) (found : memo.table[key]? = some value) :
    Sound room source (answered ++ [(key, value)]) memo := by
  have inTable : key ∈ memo.table := Std.HashMap.mem_iff_isSome_getElem?.mpr (found ▸ rfl)
  have asked : key ∈ answered.map Prod.fst := mem_of_firsts ((sound.known key).mp inTable)
  have same : firsts room (answered ++ [(key, value)]) = firsts room answered := firsts_again asked
  obtain ⟨earlier, isEarlier, rfl⟩ := List.mem_map.mp asked
  have sameValue : earlier.2 = value := Option.some.inj ((sound.stable earlier isEarlier inTable).symm.trans found)
  have sameEarlier : (earlier.1, value) = earlier := by rw [← sameValue]
  rw [sameEarlier] at same ⊢
  have known : ∀ pair ∈ answered ++ [earlier], pair ∈ answered := by
    intro pair member
    rcases List.mem_append.mp member with before | last
    · exact before
    · rwa [List.mem_singleton.mp last]
  exact {
    known := fun key => same ▸ sound.known key
    size := same ▸ sound.size
    honest := fun pair member => sound.honest pair (known pair member)
    stable := fun pair member => sound.stable pair (known pair member)
    frugal := fun other => by
      rw [sound.frugal other, List.map_append]
      split
      · rfl
      · next absent =>
        have different : ¬ earlier.1 = other := fun same => absent (same ▸ inTable)
        simp [different] }

/-- A lookup that there is room for. -/
theorem Sound.learn (sound : Sound room source answered memo) (missing : memo.table[key]? = none)
    (space : memo.table.size < room) :
    Sound room source (answered ++ [(key, source memo.lookups.length key)])
      { table := memo.table.insert key (source memo.lookups.length key), lookups := memo.lookups ++ [key] } := by
  have absent : key ∉ memo.table := fun inTable => by
    rw [Std.HashMap.mem_iff_isSome_getElem?, missing] at inTable
    cases inTable
  have all : firsts room answered = (answered.map Prod.fst).eraseDups := firsts_of_room (sound.size ▸ space)
  have fresh : key ∉ answered.map Prod.fst := fun asked => absent ((sound.known key).mpr (by
    rw [all]
    exact List.mem_eraseDups.mpr asked))
  have longer : firsts room (answered ++ [(key, source memo.lookups.length key)]) = firsts room answered ++ [key] := by
    have fits : ((answered.map Prod.fst).eraseDups ++ [key]).length ≤ room := by
      rw [List.length_append, ← all, ← sound.size, List.length_singleton]
      exact space
    rw [firsts_new fresh, List.take_of_length_le fits, all]
  exact {
    known := fun other => by
      rw [longer, Std.HashMap.mem_insert, sound.known other, List.mem_append, List.mem_singleton, beq_iff_eq, or_comm,
        eq_comm]
    size := by
      rw [longer, Std.HashMap.size_insert, if_neg absent, sound.size, List.length_append, List.length_singleton]
    honest := sound.honest_lookup key
    stable := fun pair member inTable => by
      rw [Std.HashMap.getElem?_insert]
      rcases List.mem_append.mp member with before | last
      · have different : ¬ (key == pair.1) = true := fun same =>
          fresh (eq_of_beq same ▸ List.mem_map_of_mem before)
        rw [if_neg different]
        exact sound.stable pair before ((Std.HashMap.mem_insert.mp inTable).resolve_left different)
      · rw [List.mem_singleton.mp last, if_pos (beq_self_eq_true key)]
    frugal := fun other => by
      rw [List.count_append, sound.frugal other, List.map_append, List.count_append, List.count_singleton]
      simp only [Std.HashMap.mem_insert]
      by_cases same : key = other
      · subst same
        have never : (answered.map Prod.fst).count key = 0 := List.count_eq_zero.mpr fresh
        simp [absent, never]
      · simp [same] }

/-- A lookup that there is no room for. -/
theorem Sound.forget (sound : Sound room source answered memo) (missing : memo.table[key]? = none)
    (full : ¬ memo.table.size < room) :
    Sound room source (answered ++ [(key, source memo.lookups.length key)])
      { table := memo.table, lookups := memo.lookups ++ [key] } := by
  have absent : key ∉ memo.table := fun inTable => by
    rw [Std.HashMap.mem_iff_isSome_getElem?, missing] at inTable
    cases inTable
  have same : firsts room (answered ++ [(key, source memo.lookups.length key)]) = firsts room answered :=
    firsts_of_full (sound.size ▸ full)
  exact {
    known := fun other => same ▸ sound.known other
    size := same ▸ sound.size
    honest := sound.honest_lookup key
    stable := fun pair member inTable => by
      rcases List.mem_append.mp member with before | last
      · exact sound.stable pair before inTable
      · rw [List.mem_singleton.mp last] at inTable
        exact absurd inTable absent
    frugal := fun other => by
      rw [List.count_append, sound.frugal other, List.map_append, List.count_append]
      by_cases inTable : other ∈ memo.table
      · have different : ¬ key = other := fun same => absent (same ▸ inTable)
        simp [inTable, different]
      · simp [inTable] }

/-- What one question keeps. -/
theorem Sound.ask (sound : Sound room source answered memo) (key : κ) :
    Sound room source (answered ++ [(key, (memo.ask room source key).1)]) (memo.ask room source key).2 := by
  cases found : memo.table[key]? with
  | some value =>
    simp only [Memo.ask, found]
    exact sound.hit found
  | none =>
    simp only [Memo.ask, found]
    by_cases space : memo.table.size < room
    · rw [if_pos space]
      exact sound.learn found space
    · rw [if_neg space]
      exact sound.forget found space

omit [LawfulBEq κ] in
/-- A source that always answers alike is not told from the table. -/
theorem Sound.transparent {plain : κ → ν} (sound : Sound room (fun _ => plain) answered memo) :
    ∀ pair ∈ answered, pair.2 = plain pair.1 := by
  intro pair member
  obtain ⟨-, -, answer⟩ := sound.honest pair member
  exact answer

end

end Memo

end Utiputils.Lib
