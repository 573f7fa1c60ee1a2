import Curation.Cache.Basic
import Curation.Moderation.Intake
import Curation.Proofs.Check.Looking

/-! Claims in the cache of the process. An entry that is alive stays under its key
whatever is claimed, looked up or kept under other keys, and while it is alive its key
cannot be claimed again. -/
namespace Curation

namespace Cache.Table

variable {key other : String} {entry : Entry} {now : Number} {table : Table}

theorem find?_insert_self (key : String) (entry : Entry) (table : Table) :
    (table.insert key entry).find? key = some entry := by
  induction table with
  | nil => simp [insert, find?]
  | cons pair rest ih =>
    obtain ⟨first, old⟩ := pair
    by_cases same : first = key
    · simp [insert, find?, same]
    · have apart : (key == first) = false := beq_false_of_ne (Ne.symm same)
      simpa [insert, same, find?, List.lookup_cons, apart] using ih

theorem find?_insert_other (apart : other ≠ key) (entry : Entry) (table : Table) :
    (table.insert key entry).find? other = table.find? other := by
  induction table with
  | nil => simp [insert, find?, List.lookup_cons, beq_false_of_ne apart]
  | cons pair rest ih =>
    obtain ⟨first, old⟩ := pair
    by_cases same : first = key
    · subst same
      simp [insert, find?, List.lookup_cons, beq_false_of_ne apart]
    · simp only [insert, same, if_false, find?, List.lookup_cons]
      split
      · rfl
      · exact ih

theorem mem_of_find? (found : table.find? key = some entry) : (key, entry) ∈ table := by
  obtain ⟨before, after, rfl, -⟩ := List.lookup_eq_some_iff.mp found
  exact List.mem_append_right _ (List.mem_cons_self ..)

theorem mem_insert {pair : String × Entry} (listed : pair ∈ table.insert key entry) :
    pair = (key, entry) ∨ pair ∈ table := by
  induction table with
  | nil => exact .inl (List.mem_singleton.mp listed)
  | cons head rest ih =>
    simp only [insert] at listed
    split at listed
    · rename_i same
      rcases List.mem_cons.mp listed with rfl | listed
      · exact .inl (by rw [← same])
      · exact .inr (.tail _ listed)
    · rcases List.mem_cons.mp listed with rfl | listed
      · exact .inr (.head _)
      · exact (ih listed).imp_right (.tail _)

/-- What is filtered out leaves the entry under a key, if that is kept. -/
theorem find?_filter {keep : String × Entry → Bool} (kept : keep (key, entry) = true)
    (found : table.find? key = some entry) : find? key (table.filter keep) = some entry := by
  induction table with
  | nil => cases found
  | cons pair rest ih =>
    obtain ⟨first, old⟩ := pair
    simp only [find?, List.lookup_cons] at found ih ⊢
    by_cases same : key = first
    · subst same
      simp only [beq_self_eq_true] at found
      cases found
      simp [kept]
    · have apart : (key == first) = false := beq_false_of_ne same
      rw [apart] at found
      have later := ih found
      by_cases stays : keep (first, old) = true
      · simp [stays, List.lookup_cons, apart, later]
      · simp [stays, later]

theorem find?_evict (live : entry.isLive now = true) (found : table.find? key = some entry) :
    (table.evict now).find? key = some entry := find?_filter live found

theorem find?_erase_other (apart : other ≠ key) (found : table.find? other = some entry) :
    (table.erase key).find? other = some entry :=
  find?_filter (by simpa using apart) found

theorem find?_filter_none (absent : table.find? key = none) (keep : String × Entry → Bool) :
    find? key (table.filter keep) = none := by
  simp only [find?, List.lookup_eq_none_iff, List.mem_filter] at absent ⊢
  exact fun pair listed => absent pair listed.1

theorem find?_erase_self (key : String) (table : Table) : (table.erase key).find? key = none := by
  simp only [find?, erase, List.lookup_eq_none_iff, List.mem_filter]
  intro pair listed
  have apart : pair.1 ≠ key := by simpa using listed.2
  simpa using apart.symm

end Cache.Table

namespace Cache

/-- An entry of the cache in the process that is alive. -/
structure Holds (cache : Cache) (key : String) (entry : Entry) (now : Number) : Prop where
  found : cache.entries.find? (keyStart ++ key) = some entry
  live : entry.isLive now = true

variable {cache : Cache} {key other : String} {entry : Entry} {now ttl : Number} {value : Json}

theorem key_apart (apart : other ≠ key) : keyStart ++ other ≠ keyStart ++ key :=
  fun same => apart ((String.append_right_inj _).mp same)

theorem settled_memory (memory : cache.backend = .memory) : cache.settled = cache := by
  simp [settled, memory]

/-! ## In the process -/

/-- What comes of a look-up in the process: nothing, what is alive, or nothing after what
is dead was dropped. -/
inductive Looked (cache : Cache) (key : String) (now : Number) : Option Json → Cache → Prop
  | none : cache.entries.find? (keyStart ++ key) = none → Looked cache key now none cache
  | found {entry : Entry} : cache.entries.find? (keyStart ++ key) = some entry → entry.isLive now = true →
    Looked cache key now (some entry.value) cache
  | dropped {entry : Entry} : cache.entries.find? (keyStart ++ key) = some entry → entry.isLive now = false →
    Looked cache key now none { cache with entries := cache.entries.erase (keyStart ++ key) }

theorem get_looked {found : Option Json} {after : Cache} (memory : cache.backend = .memory)
    (looks : cache.get key now = (found, after)) : Looked cache key now found after := by
  simp only [get, settled_memory memory, memory] at looks
  cases stored : cache.entries.find? (keyStart ++ key) with
  | none =>
    rw [stored] at looks
    cases looks
    exact .none stored
  | some entry =>
    cases live : entry.isLive now with
    | true =>
      simp only [stored, live, if_true] at looks
      cases looks
      exact .found stored live
    | false =>
      simp only [stored, live, Bool.false_eq_true, if_false] at looks
      cases looks
      have dropped := Looked.dropped stored live
      rwa [memory] at dropped

theorem get_memory (memory : cache.backend = .memory) :
    (cache.get key now).2.backend = .memory := by
  cases looks : cache.get key now with
  | mk found after =>
    cases get_looked memory looks with
    | none | found | dropped => exact memory

theorem write_memory (memory : cache.backend = .memory) (onlyNew : Bool) :
    (cache.write key value ttl now onlyNew).2.backend = .memory := by
  simp only [write, settled_memory memory, memory]
  split
  · rfl
  · rfl

theorem release_memory (memory : cache.backend = .memory) :
    (cache.release key).backend = .memory := by
  simp only [release, settled_memory memory, memory]

/-- A look-up drops nothing that is alive. -/
theorem get_holds (memory : cache.backend = .memory) (holds : cache.Holds key entry now)
    (other : String) : (cache.get other now).2.Holds key entry now := by
  cases looks : cache.get other now with
  | mk found after =>
    cases get_looked memory looks with
    | none | found => exact holds
    | dropped stored dead =>
      refine ⟨Table.find?_erase_other ?_ holds.found, holds.live⟩
      intro same
      rw [← same, holds.found] at stored
      cases stored
      rw [holds.live] at dead
      cases dead

/-- A write leaves alone what is alive under another key. -/
theorem write_holds (memory : cache.backend = .memory) (holds : cache.Holds key entry now)
    (apart : key ≠ other) (onlyNew : Bool) :
    (cache.write other value ttl now onlyNew).2.Holds key entry now := by
  have stays := Table.find?_evict holds.live holds.found
  simp only [write, settled_memory memory, memory]
  split
  · exact ⟨stays, holds.live⟩
  · exact ⟨(Table.find?_insert_other (key_apart apart) _ _).trans stays, holds.live⟩

theorem release_holds (memory : cache.backend = .memory) (holds : cache.Holds key entry now)
    (apart : key ≠ other) : (cache.release other).Holds key entry now := by
  simp only [release, settled_memory memory, memory]
  exact ⟨Table.find?_erase_other (key_apart apart) holds.found, holds.live⟩

/-- What is held cannot be claimed. -/
theorem claim_held (memory : cache.backend = .memory) (holds : cache.Holds key entry now) :
    (cache.claim key ttl now).1 = false := by
  have stays := Table.find?_evict holds.live holds.found
  have found : Table.live? (keyStart ++ key) now (cache.entries.evict now) = some entry.value := by
    rw [Table.live?, stays]
    simp [holds.live]
  simp [claim, write, settled_memory memory, memory, found]

/-- A claim leaves alone what is alive, under its own key as well. -/
theorem claim_holds (memory : cache.backend = .memory) (holds : cache.Holds key entry now)
    (other : String) : (cache.claim other ttl now).2.Holds key entry now := by
  by_cases same : key = other
  · subst same
    have stays := Table.find?_evict holds.live holds.found
    have found : Table.live? (keyStart ++ key) now (cache.entries.evict now) = some entry.value := by
      rw [Table.live?, stays]
      simp [holds.live]
    simp only [claim, write, settled_memory memory, memory, found]
    exact ⟨stays, holds.live⟩
  · exact write_holds memory holds same true

/-- What was claimed is found under its key, to last for the time that it was claimed for. -/
theorem claim_found (memory : cache.backend = .memory) (taken : (cache.claim key ttl now).1 = true) :
    (cache.claim key ttl now).2.entries.find? (keyStart ++ key) = some ⟨now.add ttl, .int 1⟩ := by
  simp only [claim, write, settled_memory memory, memory] at taken ⊢
  split at taken
  · cases taken
  · rename_i free
    simp only [free, Bool.false_eq_true, if_false]
    exact Table.find?_insert_self _ _ _

/-- What was freed can be claimed, wherever the cache is. -/
theorem claim_released (cache : Cache) (key : String) (ttl now : Number) :
    ((cache.release key).claim key ttl now).1 = true := by
  have free (table : Table) : Table.live? (keyStart ++ key) now (table.erase (keyStart ++ key)) = none := by
    rw [Table.live?, Table.find?_erase_self]
  have evicted (table : Table) :
      Table.live? (keyStart ++ key) now ((table.erase (keyStart ++ key)).evict now) = none := by
    have absent := Table.find?_filter_none (Table.find?_erase_self (keyStart ++ key) table)
      fun pair => pair.2.isLive now
    rw [Table.live?, Table.evict, absent]
  obtain ⟨backend, ⟨entries, isDown⟩, own⟩ := cache
  cases backend with
  | memory => simp [release, claim, write, settled, evicted]
  | server =>
    cases isDown with
    | true => simp [release, claim, write, settled, evicted]
    | false => simp [release, claim, write, settled, free]

/-! ## Wherever the cache is -/

/-- While the cache is on the server, its own table is empty, so that nothing comes up
again when the server fails. -/
def IsSound (cache : Cache) : Prop := cache.backend = .server → cache.entries = []

/-- Nothing stands under a key, wherever the cache goes on from here. -/
structure IsUnclaimed (cache : Cache) (key : String) : Prop where
  own : cache.entries.find? (keyStart ++ key) = none
  served : cache.backend = .server → cache.server.entries.find? (keyStart ++ key) = none

theorem settled_sound (sound : cache.IsSound) : cache.settled.IsSound := by
  unfold settled
  split
  · exact nofun
  · exact sound

theorem memory_sound (memory : cache.backend = .memory) : cache.IsSound := by
  intro served
  cases memory.symm.trans served

theorem get_sound (sound : cache.IsSound) (key : String) (now : Number) :
    (cache.get key now).2.IsSound := by
  have sound := settled_sound sound
  simp only [get]
  cases backend : cache.settled.backend with
  | server => exact sound
  | memory =>
    simp only
    split
    · exact sound
    · split
      · exact sound
      · exact memory_sound rfl

theorem write_sound (sound : cache.IsSound) (key : String) (value : Json) (ttl now : Number)
    (onlyNew : Bool) : (cache.write key value ttl now onlyNew).2.IsSound := by
  have sound := settled_sound sound
  simp only [write]
  cases backend : cache.settled.backend with
  | server =>
    simp only
    split
    · exact sound
    · exact fun _ => sound backend
  | memory =>
    simp only
    split
    · exact memory_sound rfl
    · exact memory_sound rfl

theorem release_sound (sound : cache.IsSound) (key : String) : (cache.release key).IsSound := by
  have sound := settled_sound sound
  simp only [release]
  cases backend : cache.settled.backend with
  | server => exact fun _ => sound backend
  | memory => exact memory_sound rfl

/-- A key that was freed stands nowhere, even if the server fails meanwhile. -/
theorem release_unclaimed (sound : cache.IsSound) (key : String) :
    (cache.release key).IsUnclaimed key := by
  have sound := settled_sound sound
  simp only [release]
  cases backend : cache.settled.backend with
  | server =>
    refine ⟨?_, fun _ => Table.find?_erase_self _ _⟩
    rw [show cache.settled.entries = [] from sound backend]
    rfl
  | memory => exact ⟨Table.find?_erase_self _ _, nofun⟩

/-- A key that stands nowhere can be claimed at any time. -/
theorem IsUnclaimed.claim (unclaimed : cache.IsUnclaimed key) (ttl now : Number) :
    (cache.claim key ttl now).1 = true := by
  have evicted : Table.live? (keyStart ++ key) now (cache.entries.evict now) = none := by
    rw [Table.live?, Table.evict, Table.find?_filter_none unclaimed.own]
  obtain ⟨backend, ⟨entries, isDown⟩, own⟩ := cache
  cases backend with
  | memory => simp [Cache.claim, write, settled, evicted]
  | server =>
    have free : Table.live? (keyStart ++ key) now entries = none := by
      rw [Table.live?, unclaimed.served rfl]
    cases isDown with
    | true => simp [Cache.claim, write, settled, evicted]
    | false => simp [Cache.claim, write, settled, free]

end Cache

namespace Moderation

open Check (IsOwnKey keyStarts)

theorem claimKey_toList (cast : Cast) :
    (claimKey cast).toList = "cast:".toList ++ cast.hash.toList :=
  String.toList_append ..

theorem claimKey_inj {cast cast' : Cast} (same : claimKey cast = claimKey cast') :
    cast.hash = cast'.hash := by
  have lists := congrArg String.toList same
  rw [claimKey_toList, claimKey_toList] at lists
  exact String.toList_inj.mp (List.append_cancel_left lists)

/-- No check keeps an answer under the key of a claim. -/
theorem claimKey_not_own (cast : Cast) : ¬ IsOwnKey (claimKey cast) := by
  rintro ⟨start, listed, rest, same⟩
  -- All keys of checks begin with a letter that is not that of claims.
  have firsts : ∀ start ∈ keyStarts, start.toList.head?.any (· ≠ 'c') = true := by decide
  have first := firsts start listed
  rw [claimKey_toList] at same
  cases shape : start.toList with
  | nil =>
    rw [shape] at first
    cases first
  | cons char more =>
    rw [shape] at first same
    obtain ⟨rfl, -⟩ := List.cons.inj same
    cases first

end Moderation

end Curation
