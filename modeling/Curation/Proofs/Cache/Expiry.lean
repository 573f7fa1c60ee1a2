import Curation.Proofs.Cache.Claims
import Curation.Proofs.Cache.Operations
import Curation.Proofs.Number.Order

/-! What the cache of the process answers over time. The entry that stands under a key is the
last one written there, unless it was dropped since, and it counts strictly before its expiry.
Dead entries are dropped in passing, on reading and on writing. As time does not go back, they
would never have counted again, so that nothing of this shows. -/
namespace Curation.Cache

/-! ## Tables over time -/

namespace Table

variable {key other : String} {entry : Entry} {now later : Number} {table : Table}

/-- No key has two entries. -/
def Single (table : Table) : Prop := (table.map (·.1)).Nodup

theorem Single.filter (single : table.Single) (keep : String × Entry → Bool) : Single (table.filter keep) :=
  single.sublist (List.filter_sublist.map _)

theorem mem_keys_insert {name : String} (listed : name ∈ (table.insert key entry).map (·.1)) :
    name = key ∨ name ∈ table.map (·.1) := by
  obtain ⟨pair, inside, rfl⟩ := List.mem_map.mp listed
  rcases mem_insert inside with rfl | inside
  · exact .inl rfl
  · exact .inr (List.mem_map_of_mem inside)

theorem Single.insert (single : table.Single) (key : String) (entry : Entry) : (table.insert key entry).Single := by
  induction table with
  | nil => exact List.nodup_singleton _
  | cons pair rest ih =>
    obtain ⟨first, old⟩ := pair
    obtain ⟨apart, tail⟩ := List.nodup_cons.mp single
    by_cases same : first = key
    · subst same
      simp only [Table.insert, if_true]
      exact List.nodup_cons.mpr ⟨apart, tail⟩
    · simp only [Table.insert, if_neg same]
      refine List.nodup_cons.mpr ⟨fun listed => ?_, ih tail⟩
      rcases mem_keys_insert listed with again | listed
      · exact same again
      · exact apart listed

/-- An entry that is filtered out leaves nothing under its key. -/
theorem find?_filter_out {keep : String × Entry → Bool} (single : table.Single)
    (out : keep (key, entry) = false) (found : table.find? key = some entry) :
    find? key (table.filter keep) = none := by
  rw [find?, List.lookup_eq_none_iff]
  intro pair listed
  obtain ⟨listed, kept⟩ := List.mem_filter.mp listed
  by_contra same
  have same : key = pair.1 := by simpa using same
  have both : pair = (key, entry) :=
    List.inj_on_of_nodup_map single listed (mem_of_find? found) same.symm
  rw [both, out] at kept
  cases kept

theorem live?_insert_self (key : String) (entry : Entry) (table : Table) :
    (table.insert key entry).live? key now = if entry.isLive now then some entry.value else none := by
  rw [live?, find?_insert_self]

theorem live?_insert_other (apart : other ≠ key) (entry : Entry) (table : Table) :
    (table.insert key entry).live? other now = table.live? other now := by
  rw [live?, find?_insert_other apart, live?]

theorem live?_erase_self (key : String) (table : Table) : (table.erase key).live? key now = none := by
  rw [live?, find?_erase_self]

theorem live?_erase_other (apart : other ≠ key) (table : Table) :
    (table.erase key).live? other now = table.live? other now := by
  have same : (table.erase key).find? other = table.find? other := by
    cases found : table.find? other with
    | none => exact find?_filter_none found _
    | some entry => exact find?_erase_other apart found
  rw [live?, same, live?]

/-- Nothing that is dead at one time is alive at the other. -/
def Passes (now later : Number) : Prop := ∀ entry : Entry, entry.isLive later = true → entry.isLive now = true

theorem passes_of_le (order : now.le later = true) : Passes now later :=
  fun _ live => Number.lt_of_le_of_lt order live

theorem passes_refl (now : Number) : Passes now now := fun _ live => live

theorem live?_of_dead (found : table.find? key = some entry) (dead : entry.isLive now = false)
    (passes : Passes now later) : table.live? key later = none := by
  have dead : entry.isLive later = false := by
    by_contra live
    rw [passes entry (by simpa using live)] at dead
    cases dead
  simp [live?, found, dead]

/-- To drop what is dead makes no difference from then on. -/
theorem live?_evict (single : table.Single) (passes : Passes now later) :
    (table.evict now).live? key later = table.live? key later := by
  cases found : table.find? key with
  | none =>
    have none : (table.evict now).find? key = none := find?_filter_none found _
    rw [live?, none, live?, found]
  | some entry =>
    cases live : entry.isLive now with
    | true =>
      rw [live?, find?_evict live found, live?, found]
    | false =>
      have none : (table.evict now).find? key = none := find?_filter_out single live found
      rw [live?_of_dead found live passes, live?, none]

end Table

/-! ## What stands under a key -/

/-- What an access leaves under its key. -/
def Exchange.leaves (standing : Option Entry) : Exchange → Option Entry
  | ⟨_, .look _, _, _⟩ => standing
  | ⟨occasion, .write _ value ttl _, made, _⟩ =>
    bif (made : Bool) then some ⟨occasion.now.add ttl, value⟩ else standing
  | ⟨_, .drop _, _, _⟩ => none

/-- The entry that stands under a key after accesses, the last access first: that of the last
write that was made there, if it was not dropped since. -/
def standing? (key : String) : List Exchange → Option Entry
  | [] => none
  | exchange :: earlier =>
    if exchange.access.key = key then exchange.leaves (standing? key earlier) else standing? key earlier

/-- The value that counts under a key at a time. -/
def counting? (key : String) (now : Number) (past : List Exchange) : Option Json :=
  match standing? key past with
  | some entry => if entry.isLive now then some entry.value else none
  | none => none

/-- What an operation is to give at a time after what was done before. -/
def Operation.expected (now : Number) (past : List Exchange) : Operation → Except String Reply
  | .get key => .ok (.found (counting? key now past))
  | .set .. => .ok .kept
  | .getOr key _ fresh =>
    match counting? key now past with
    | some value => .ok (.result false value)
    | none => fresh.map (.result true)
  | .claim key _ => .ok (.taken (counting? key now past).isNone)
  | .release _ => .ok .freed

variable {key other : String} {now : Number} {past : List Exchange} {exchange : Exchange}
  {occasions : Nat → Occasion} {occasion : Occasion} {diary : Diary}

/-- Only what was done under the key itself tells what stands there. -/
theorem standing?_own (key : String) (past : List Exchange) :
    standing? key (past.filter fun exchange => exchange.access.key == key) = standing? key past := by
  induction past with
  | nil => rfl
  | cons exchange earlier ih =>
    by_cases own : exchange.access.key = key
    · simp [standing?, own, ih]
    · simp [standing?, own, ih]

theorem counting?_own (key : String) (now : Number) (past : List Exchange) :
    counting? key now (past.filter fun exchange => exchange.access.key == key) = counting? key now past := by
  rw [counting?, standing?_own, counting?]

theorem standing?_other (exchange : Exchange) (past : List Exchange) (apart : exchange.access.key ≠ key) :
    standing? key (exchange :: past) = standing? key past := if_neg apart

theorem counting?_other (exchange : Exchange) (past : List Exchange) (apart : exchange.access.key ≠ key) :
    counting? key now (exchange :: past) = counting? key now past := by
  rw [counting?, standing?_other exchange past apart, counting?]

/-! ## The cache in the process -/

/-- The cache is in the process, and its entries count as what was done tells, now and from
then on. -/
structure Accounted (occasions : Nat → Occasion) (diary : Diary) : Prop where
  memory : diary.cache.backend = .memory
  single : diary.cache.entries.Single
  dated : ∀ exchange ∈ diary.past, ∃ i < diary.past.length, exchange.occasion = occasions i
  counts : ∀ key now, (∀ exchange ∈ diary.past, exchange.occasion.now.le now = true) →
    diary.cache.entries.live? (keyStart ++ key) now = counting? key now diary.past

theorem Accounted.start (occasions : Nat → Occasion) : Accounted occasions { cache := {} } :=
  ⟨rfl, List.nodup_nil, List.forall_mem_nil _, fun _ _ _ => rfl⟩

/-- Times do not go back. -/
def InOrder (occasions : Nat → Occasion) : Prop :=
  ∀ i j, i < j → (occasions i).now.le (occasions j).now = true

/-- What counts at the next access is what the table shows. -/
theorem Accounted.shown (accounted : Accounted occasions diary) (inOrder : InOrder occasions) (key : String) :
    diary.cache.entries.live? (keyStart ++ key) (diary.next occasions).now =
      counting? key (diary.next occasions).now diary.past := by
  refine accounted.counts key _ fun exchange listed => ?_
  obtain ⟨i, before, same⟩ := accounted.dated exchange listed
  rw [same]
  exact inOrder i _ before

/-- What comes of a write in the process: where a live entry is in the way, nothing but that
what is dead was dropped. -/
inductive Wrote (cache : Cache) (key : String) (entry : Entry) (now : Number) (onlyNew : Bool) :
    Bool → Cache → Prop
  | refused : onlyNew = true → ((cache.entries.evict now).live? (keyStart ++ key) now).isSome = true →
    Wrote cache key entry now onlyNew false { cache with entries := cache.entries.evict now }
  | made : (onlyNew = true → (cache.entries.evict now).live? (keyStart ++ key) now = none) →
    Wrote cache key entry now onlyNew true
      { cache with entries := (cache.entries.evict now).insert (keyStart ++ key) entry }

theorem write_wrote {cache : Cache} (memory : cache.backend = .memory) (key : String) (value : Json)
    (ttl now : Number) (onlyNew : Bool) :
    Wrote cache key ⟨now.add ttl, value⟩ now onlyNew (cache.write key value ttl now onlyNew).1
      (cache.write key value ttl now onlyNew).2 := by
  obtain ⟨backend, server, entries⟩ := cache
  subst memory
  simp only [write, settled_memory]
  by_cases held : (onlyNew && ((entries.evict now).live? (keyStart ++ key) now).isSome) = true
  · obtain ⟨new, some⟩ := (Bool.and_eq_true _ _).mp held
    rw [if_pos held]
    exact .refused new some
  · rw [if_neg held]
    exact .made fun new => by simpa [new] using held

theorem get_looks {cache : Cache} (memory : cache.backend = .memory) (key : String) (now : Number) :
    Looked cache key now (cache.get key now).1 (cache.get key now).2 :=
  get_looked memory rfl

theorem standing?_kept (keeps : ∀ standing, exchange.leaves standing = standing) :
    standing? key (exchange :: past) = standing? key past := by
  rw [standing?, keeps]
  split <;> rfl

theorem counting?_kept (keeps : ∀ standing, exchange.leaves standing = standing) :
    counting? key now (exchange :: past) = counting? key now past := by
  rw [counting?, standing?_kept keeps, counting?]

/-- A look-up changes nothing of what counts. -/
theorem Looked.shows {cache after : Cache} {found : Option Json} {time : Number}
    (looked : Looked cache other time found after) (passes : Table.Passes time now) :
    after.entries.live? (keyStart ++ key) now = cache.entries.live? (keyStart ++ key) now := by
  cases looked with
  | none | found => rfl
  | dropped stored dead =>
    by_cases same : key = other
    · subst same
      rw [Table.live?_erase_self, Table.live?_of_dead stored dead passes]
    · exact Table.live?_erase_other (key_apart same) _

theorem Looked.found_eq {cache after : Cache} {found : Option Json}
    (looked : Looked cache key now found after) : found = cache.entries.live? (keyStart ++ key) now := by
  cases looked with
  | none absent => simp [Table.live?, absent]
  | found stored live => simp [Table.live?, stored, live]
  | dropped stored dead => simp [Table.live?, stored, dead]

theorem Looked.single {cache after : Cache} {found : Option Json} (looked : Looked cache key now found after)
    (single : cache.entries.Single) : after.entries.Single := by
  cases looked with
  | none | found => exact single
  | dropped => exact single.filter _

/-- A write changes nothing of what counts under other keys, and if it was not made, nothing
at all. -/
theorem Wrote.shows {cache after : Cache} {entry : Entry} {time : Number} {onlyNew made : Bool}
    (wrote : Wrote cache other entry time onlyNew made after) (single : cache.entries.Single)
    (passes : Table.Passes time now) (apart : key = other → made = false) :
    after.entries.live? (keyStart ++ key) now = cache.entries.live? (keyStart ++ key) now := by
  have evicted : (cache.entries.evict time).live? (keyStart ++ key) now =
      cache.entries.live? (keyStart ++ key) now := Table.live?_evict single passes
  cases wrote with
  | refused => exact evicted
  | made =>
    have apart : key ≠ other := fun same => Bool.false_ne_true (apart same).symm
    exact (Table.live?_insert_other (key_apart apart) _ _).trans evicted

theorem Wrote.shows_self {cache after : Cache} {entry : Entry} {time : Number} {onlyNew : Bool}
    (wrote : Wrote cache key entry time onlyNew true after) :
    after.entries.live? (keyStart ++ key) now = if entry.isLive now then some entry.value else none := by
  cases wrote with
  | made => exact Table.live?_insert_self _ _ _

theorem Wrote.single {cache after : Cache} {entry : Entry} {onlyNew made : Bool}
    (wrote : Wrote cache key entry now onlyNew made after) (single : cache.entries.Single) :
    after.entries.Single := by
  cases wrote with
  | refused => exact single.filter _
  | made => exact (single.filter _).insert _ _

theorem Wrote.made_eq {cache after : Cache} {entry : Entry} {onlyNew made : Bool}
    (wrote : Wrote cache key entry now onlyNew made after) (single : cache.entries.Single) :
    made = !(onlyNew && (cache.entries.live? (keyStart ++ key) now).isSome) := by
  have evicted : (cache.entries.evict now).live? (keyStart ++ key) now =
      cache.entries.live? (keyStart ++ key) now := Table.live?_evict single (Table.passes_refl now)
  rw [← evicted]
  cases wrote with
  | refused new some => simp [new, some]
  | made free =>
    cases onlyNew with
    | false => rfl
    | true => simp [free rfl]

/-- What counts under a key after a write there that was made. -/
theorem counting?_made {value : Json} {ttl : Number} {onlyNew : Bool} {backend : Backend} :
    counting? key now (⟨occasion, .write key value ttl onlyNew, true, backend⟩ :: past) =
      if (Entry.mk (occasion.now.add ttl) value).isLive now then some value else none := by
  have standing : standing? key (⟨occasion, .write key value ttl onlyNew, true, backend⟩ :: past) =
      some ⟨occasion.now.add ttl, value⟩ := if_pos rfl
  rw [counting?, standing]

theorem counting?_dropped {backend : Backend} :
    counting? key now (⟨occasion, .drop key, (), backend⟩ :: past) = none := by
  have standing : standing? key (⟨occasion, .drop key, (), backend⟩ :: past) = none := if_pos rfl
  rw [counting?, standing]

theorem release_entries {cache : Cache} (memory : cache.backend = .memory) (key : String) :
    (cache.release key).entries = cache.entries.erase (keyStart ++ key) := by
  simp only [release, settled_memory memory, memory]

theorem answer_single {cache : Cache} (memory : cache.backend = .memory) (single : cache.entries.Single)
    (occasion : Occasion) (access : Access) : (cache.answer occasion access).2.entries.Single := by
  have memory : (cache.on occasion).backend = .memory := memory
  cases access with
  | look other => exact (get_looks memory other _).single single
  | write other value ttl onlyNew => exact (write_wrote memory other value ttl _ onlyNew).single single
  | drop other =>
    have entries := release_entries memory other
    exact entries ▸ single.filter _

/-- Where the entries count as what was done tells, they still do after an access. -/
theorem answer_counts {cache : Cache} (memory : cache.backend = .memory) (single : cache.entries.Single)
    (passes : Table.Passes occasion.now now)
    (counts : ∀ key, cache.entries.live? (keyStart ++ key) now = counting? key now past) (access : Access)
    (backend : Backend) (key : String) :
    (cache.answer occasion access).2.entries.live? (keyStart ++ key) now =
      counting? key now (⟨occasion, access, (cache.answer occasion access).1, backend⟩ :: past) := by
  have memory : (cache.on occasion).backend = .memory := memory
  have counts : (cache.on occasion).entries.live? (keyStart ++ key) now = counting? key now past := counts key
  cases access with
  | look other =>
    have looked := get_looks memory other occasion.now
    rw [counting?_kept fun _ => rfl, ← counts]
    exact looked.shows passes
  | drop other =>
    have entries := release_entries memory other
    change ((cache.on occasion).release other).entries.live? _ _ =
      counting? key now (⟨occasion, .drop other, (), backend⟩ :: past)
    rw [entries]
    by_cases same : other = key
    · subst same
      exact (Table.live?_erase_self _ _).trans counting?_dropped.symm
    · rw [counting?_other ⟨occasion, .drop other, (), backend⟩ past same, ← counts]
      exact Table.live?_erase_other (key_apart (Ne.symm same)) _
  | write other value ttl onlyNew =>
    have wrote := write_wrote memory other value ttl occasion.now onlyNew
    change ((cache.on occasion).write other value ttl occasion.now onlyNew).2.entries.live? _ _ =
      counting? key now (⟨occasion, .write other value ttl onlyNew,
        ((cache.on occasion).write other value ttl occasion.now onlyNew).1, backend⟩ :: past)
    cases made : ((cache.on occasion).write other value ttl occasion.now onlyNew).1 with
    | false =>
      rw [made] at wrote
      rw [counting?_kept fun _ => rfl, ← counts]
      exact wrote.shows single passes fun _ => rfl
    | true =>
      rw [made] at wrote
      by_cases same : other = key
      · subst same
        exact wrote.shows_self.trans counting?_made.symm
      · rw [counting?_other ⟨occasion, .write other value ttl onlyNew, true, backend⟩ past same, ← counts]
        exact wrote.shows single passes fun again => absurd again.symm same

/-- An access leaves an accounted cache accounted. -/
theorem Accounted.note (accounted : Accounted occasions diary) (access : Access) :
    Accounted occasions (diary.note (diary.next occasions) access).2 := by
  constructor
  case memory => exact answer_memory accounted.memory _ access
  case single => exact answer_single accounted.memory accounted.single _ access
  case dated =>
    refine List.forall_mem_cons.mpr ⟨⟨diary.past.length, Nat.lt_succ_self _, rfl⟩, fun exchange listed => ?_⟩
    obtain ⟨i, before, same⟩ := accounted.dated exchange listed
    exact ⟨i, Nat.lt_succ_of_lt before, same⟩
  case counts =>
    intro key now passed
    obtain ⟨here, passed⟩ := List.forall_mem_cons.mp passed
    exact answer_counts accounted.memory accounted.single (Table.passes_of_le here)
      (fun key => accounted.counts key now passed) access _ key

theorem Accounted.perform (accounted : Accounted occasions diary) (operation : Operation) :
    Accounted occasions (perform occasions operation diary).2 :=
  Program.run_invariant (fun access _ accounted => accounted.note access) operation.program accounted

theorem Accounted.performAll (accounted : Accounted occasions diary) (operations : List Operation) :
    Accounted occasions (performAll occasions operations diary) := by
  induction operations generalizing diary with
  | nil => exact accounted
  | cons operation rest ih => exact ih (accounted.perform operation)

/-! ## Replies -/

theorem Accounted.looks (accounted : Accounted occasions diary) (inOrder : InOrder occasions) (key : String) :
    (diary.note (diary.next occasions) (.look key)).1 =
      counting? key (diary.next occasions).now diary.past := by
  have memory : (diary.cache.on (diary.next occasions)).backend = .memory := accounted.memory
  have looked := get_looks memory key (diary.next occasions).now
  exact looked.found_eq.trans (accounted.shown inOrder key)

theorem Accounted.makes (accounted : Accounted occasions diary) (inOrder : InOrder occasions) (key : String)
    (value : Json) (ttl : Number) (onlyNew : Bool) :
    (diary.note (diary.next occasions) (.write key value ttl onlyNew)).1 =
      !(onlyNew && (counting? key (diary.next occasions).now diary.past).isSome) := by
  have memory : (diary.cache.on (diary.next occasions)).backend = .memory := accounted.memory
  have wrote := write_wrote memory key value ttl (diary.next occasions).now onlyNew
  have made := wrote.made_eq accounted.single
  have shown : (diary.cache.on (diary.next occasions)).entries.live? (keyStart ++ key) (diary.next occasions).now =
      counting? key (diary.next occasions).now diary.past := accounted.shown inOrder key
  rw [shown] at made
  exact made

/-- Every operation gives what it is to give. -/
theorem Accounted.reply (accounted : Accounted occasions diary) (inOrder : InOrder occasions)
    (operation : Operation) :
    (Cache.perform occasions operation diary).1 =
      operation.expected (diary.next occasions).now diary.past := by
  cases operation with
  | get key => exact congrArg (fun value => Except.ok (Reply.found value)) (accounted.looks inOrder key)
  | set | release => rfl
  | claim key ttl =>
    have made := accounted.makes inOrder key (.int 1) ttl true
    refine (congrArg (fun success : Bool => Except.ok (Reply.taken success)) made).trans ?_
    rw [Operation.expected]
    cases counting? key (diary.next occasions).now diary.past <;> rfl
  | getOr key ttl fresh =>
    rw [perform_getOr, accounted.looks inOrder key, Operation.expected]
    cases counting? key (diary.next occasions).now diary.past with
    | some value => rfl
    | none => cases fresh <;> rfl

/-! ## Claims -/

/-- The operation writes under a key in any case, or drops what stands there. -/
def Operation.Replaces (key : String) : Operation → Prop
  | .set other .. => other = key
  | .release other => other = key
  | _ => False

theorem counting?_live {entry : Entry} (stands : standing? key past = some entry)
    (live : entry.isLive now = true) : counting? key now past = some entry.value := by
  rw [counting?, stands]
  exact if_pos live

/-- What is alive stands until it is replaced. -/
theorem Accounted.stands (accounted : Accounted occasions diary) (inOrder : InOrder occasions)
    {operation : Operation} {entry : Entry} (spares : ¬ operation.Replaces key)
    (stands : standing? key diary.past = some entry) (live : entry.isLive (diary.next occasions).now = true) :
    standing? key (Cache.perform occasions operation diary).2.past = some entry := by
  have counts := counting?_live stands live
  cases operation with
  | get other => exact (standing?_kept fun _ => rfl).trans stands
  | set other value ttl => exact (standing?_other ⟨_, .write other value ttl false, _, _⟩ _ spares).trans stands
  | release other => exact (standing?_other ⟨_, .drop other, _, _⟩ _ spares).trans stands
  | claim other ttl =>
    by_cases same : other = key
    · subst same
      have made := accounted.makes inOrder other (.int 1) ttl true
      rw [counts] at made
      change standing? other (⟨_, .write other (.int 1) ttl true, (diary.note (diary.next occasions) _).1, _⟩ ::
        diary.past) = _
      rw [made]
      exact (standing?_kept fun _ => rfl).trans stands
    · exact (standing?_other ⟨_, .write other (.int 1) ttl true, _, _⟩ _ same).trans stands
  | getOr other ttl fresh =>
    rw [perform_getOr]
    have looked : standing? key (diary.note (diary.next occasions) (.look other)).2.past = some entry :=
      (standing?_kept fun _ => rfl).trans stands
    by_cases same : other = key
    · subst same
      rw [accounted.looks inOrder other, counts]
      exact looked
    · cases (diary.note (diary.next occasions) (.look other)).1 with
      | some value => exact looked
      | none =>
        cases fresh with
        | error fault => exact looked
        | ok value => exact (standing?_other ⟨_, .write other value ttl false, _, _⟩ _ same).trans looked

/-- Every operation takes an occasion. -/
theorem perform_grows (operation : Operation) :
    diary.past.length < (Cache.perform occasions operation diary).2.past.length := by
  cases operation with
  | get | set | claim | release => exact Nat.lt_succ_self _
  | getOr key ttl fresh =>
    rw [perform_getOr]
    have looked : diary.past.length < (diary.note (diary.next occasions) (.look key)).2.past.length :=
      Nat.lt_succ_self _
    cases (diary.note (diary.next occasions) (.look key)).1 with
    | some value => exact looked
    | none =>
      cases fresh with
      | error fault => exact looked
      | ok value => exact Nat.lt_succ_of_lt looked

theorem performAll_grows (occasions : Nat → Occasion) (operations : List Operation) :
    diary.past.length ≤ (Cache.performAll occasions operations diary).past.length := by
  induction operations generalizing diary with
  | nil => exact Nat.le_refl _
  | cons operation rest ih => exact (perform_grows operation).le.trans ih

/-- What is alive after some operations has stood all the while, if none of them replaced it. -/
theorem Accounted.stands_all (accounted : Accounted occasions diary) (inOrder : InOrder occasions)
    {operations : List Operation} {entry : Entry} (spares : ∀ operation ∈ operations, ¬ operation.Replaces key)
    (stands : standing? key diary.past = some entry)
    (live : entry.isLive ((Cache.performAll occasions operations diary).next occasions).now = true) :
    standing? key (Cache.performAll occasions operations diary).past = some entry := by
  induction operations generalizing diary with
  | nil => exact stands
  | cons operation rest ih =>
    obtain ⟨here, later⟩ := List.forall_mem_cons.mp spares
    have first : diary.past.length < (Cache.perform occasions operation diary).2.past.length :=
      perform_grows operation
    have grows := first.trans_le (performAll_grows occasions rest)
    have before : entry.isLive (diary.next occasions).now = true :=
      Table.passes_of_le (inOrder _ _ grows) entry live
    exact ih (accounted.perform operation) later (accounted.stands inOrder here stands before) live

/-- What was done under a key, the last access first. -/
def Diary.under (key : String) (diary : Diary) : List Exchange :=
  diary.past.filter fun exchange => exchange.access.key == key

theorem Operation.expected_own (operation : Operation) (now : Number) (diary : Diary) :
    operation.expected now (diary.under operation.key) = operation.expected now diary.past := by
  have own (key : String) : counting? key now (diary.under key) = counting? key now diary.past :=
    counting?_own ..
  cases operation with
  | set | release => rfl
  | get key | claim key ttl | getOr key ttl fresh => simp only [Operation.expected, Operation.key, own]

/-- The cache of the process as an ideal map. Whatever was done at times that do not go back,
every operation gives what follows from what was done under its own key: a look-up finds the
value of the last write that was made, if that was not dropped and expires later; a fresh value
is made and a claim succeeds where none is found. While a claim lasts, others fail until the key
is set anew or released. -/
theorem cache_ideal (occasions : Nat → Occasion) (inOrder : InOrder occasions) (operations : List Operation) :
    let diary := Cache.performAll occasions operations { cache := {} }
    let now := (diary.next occasions).now
    (∀ operation, (Cache.perform occasions operation diary).1 =
      operation.expected now (diary.under operation.key)) ∧
    ∀ key ttl ttl' between,
      let later := Cache.performAll occasions (.claim key ttl :: between) diary
      (Cache.perform occasions (.claim key ttl) diary).1 = .ok (.taken true) →
      (∀ operation ∈ between, ¬ operation.Replaces key) →
      (later.next occasions).now.lt (now.add ttl) = true →
      (Cache.perform occasions (.claim key ttl') later).1 = .ok (.taken false) := by
  intro diary now
  have accounted : Accounted occasions diary := (Accounted.start occasions).performAll operations
  refine ⟨fun operation => ?_, ?_⟩
  · rw [accounted.reply inOrder operation, operation.expected_own]
  · intro key ttl ttl' between later taken spares lasts
    have claimed : standing? key (Cache.perform occasions (.claim key ttl) diary).2.past =
        some ⟨now.add ttl, .int 1⟩ := by
      have made : (diary.note (diary.next occasions) (.write key (.int 1) ttl true)).1 = true := by
        injection taken with taken
        injection taken
      change standing? key (⟨_, .write key (.int 1) ttl true, (diary.note (diary.next occasions) _).1, _⟩ ::
        diary.past) = _
      rw [made]
      exact if_pos rfl
    have stands := (accounted.perform (.claim key ttl)).stands_all inOrder spares claimed lasts
    have accounted : Accounted occasions later := accounted.performAll _
    have counts : counting? key (later.next occasions).now later.past = some (.int 1) :=
      counting?_live stands lasts
    rw [accounted.reply inOrder, Operation.expected, counts]
    rfl

/-- The first accesses at 0, all others at 2. -/
def twoSecondsOn (first : Nat) (i : Nat) : Occasion := ⟨if i < first then 0 else 2, {}⟩

theorem twoSecondsOn_inOrder (first : Nat) : InOrder (twoSecondsOn first) := by
  intro i j before
  by_cases early : j < first
  · simp only [twoSecondsOn, if_pos early, if_pos (before.trans early)]
    rfl
  · simp only [twoSecondsOn, if_neg early]
    split
    · rfl
    · rfl

/-- A claim for 100 seconds still holds after two, when its key was only looked at and another
key was freed. -/
theorem claim_outlasts_others :
    let later := Cache.performAll (twoSecondsOn 3) [.claim "k" 100, .get "k", .release "other"] { cache := {} }
    (Cache.perform (twoSecondsOn 3) (.claim "k" 100) later).1 = .ok (.taken false) := by
  have inOrder := twoSecondsOn_inOrder 3
  obtain ⟨-, lasts⟩ := cache_ideal (twoSecondsOn 3) inOrder []
  refine lasts "k" 100 100 [.get "k", .release "other"] rfl ?_ rfl
  simp [Operation.Replaces]

/-- A claim does not last to its expiry where its key is set meanwhile. Here it was to last for
100 seconds and was not released, but then the key was set for one second, and after two it is
claimed again. -/
theorem set_ends_claim :
    let later := Cache.performAll (twoSecondsOn 2) [.claim "k" 100, .set "k" (.str "v") 1] { cache := {} }
    InOrder (twoSecondsOn 2) ∧
      (Cache.perform (twoSecondsOn 2) (.claim "k" 100) { cache := {} }).1 = .ok (.taken true) ∧
      (later.next (twoSecondsOn 2)).now.lt ((twoSecondsOn 2 0).now.add 100) = true ∧
      (Cache.perform (twoSecondsOn 2) (.claim "k" 100) later).1 = .ok (.taken true) :=
  ⟨twoSecondsOn_inOrder 2, rfl, rfl, rfl⟩

end Curation.Cache
