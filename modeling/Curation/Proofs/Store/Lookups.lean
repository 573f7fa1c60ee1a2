import Curation.Store.Change

/-! What a look-up finds after a change. A row that is written is found under its own key,
and every other key finds what it found before. -/
namespace Curation.Store

/-- A row takes the place of the one with its key, so a look-up for that key finds it and
any other passes it by. -/
theorem find?_upsert {α : Type} {sameKey : α → α → Bool} {row : α} {wanted : α → Bool}
    (own : wanted row = true → ∀ old, wanted old = sameKey row old)
    (other : wanted row = false → ∀ old, sameKey row old = true → wanted old = false)
    (rows : List α) :
    (upsert sameKey row rows).find? wanted = if wanted row then some row else rows.find? wanted := by
  induction rows with
  | nil =>
    cases found : wanted row with
    | true => simp [upsert, found]
    | false => simp [upsert, found]
  | cons old rest ih =>
    simp only [upsert]
    cases same : sameKey row old with
    | true =>
      cases found : wanted row with
      | true => simp [found]
      | false => simp [found, other found old same]
    | false =>
      simp only [Bool.false_eq_true, if_false, List.find?_cons, ih]
      cases found : wanted row with
      | true => simp [own found old, same]
      | false => simp

/-- Rows under other keys stay as they are, and in their order. -/
theorem filter_upsert {α : Type} {sameKey : α → α → Bool} {row : α} {other : α → Bool}
    (own : other row = false) (keyed : ∀ old, sameKey row old = true → other old = false) (rows : List α) :
    (upsert sameKey row rows).filter other = rows.filter other := by
  induction rows with
  | nil => simp [upsert, own]
  | cons old rest ih =>
    simp only [upsert]
    cases same : sameKey row old with
    | true => simp [own, keyed old same]
    | false => simp [List.filter_cons, ih]

/-- The row that a look-up for its key finds is the one that is replaced. -/
theorem upsert_found {α : Type} {sameKey : α → α → Bool} {row old : α} {rows : List α}
    (found : rows.find? (sameKey row) = some old) :
    ∃ front back, rows = front ++ old :: back ∧ upsert sameKey row rows = front ++ row :: back := by
  induction rows with
  | nil => cases found
  | cons first rest ih =>
    rw [List.find?_cons] at found
    simp only [upsert]
    cases keyed : sameKey row first with
    | true =>
      rw [keyed] at found
      cases found
      exact ⟨[], rest, rfl, by simp⟩
    | false =>
      rw [keyed] at found
      obtain ⟨front, back, rfl, replaced⟩ := ih found
      exact ⟨first :: front, back, rfl, by simp [replaced]⟩

/-- A row that shows what the one in its place has shown does not show. -/
theorem map_upsert {α β : Type} {sameKey : α → α → Bool} {row old : α} {shown : α → β} {rows : List α}
    (found : rows.find? (sameKey row) = some old) (same : shown row = shown old) :
    (upsert sameKey row rows).map shown = rows.map shown := by
  obtain ⟨front, back, rfl, replaced⟩ := upsert_found found
  simp [replaced, same]

/-- Rows that are shown under their keys are replaced as they are shown. -/
theorem upsert_shown {α : Type} {sameKey : α → α → Bool} {shown : α → α}
    (keyed : ∀ row old, sameKey (shown row) (shown old) = sameKey row old) (row : α) (rows : List α) :
    (upsert sameKey row rows).map shown = upsert sameKey (shown row) (rows.map shown) := by
  induction rows with
  | nil => rfl
  | cons old rest ih =>
    simp only [upsert, List.map_cons, keyed]
    cases same : sameKey row old with
    | true => simp
    | false => simp [ih]

/-- A row that is written again takes its own place. -/
theorem upsert_again {α : Type} {sameKey : α → α → Bool} {row : α} (own : sameKey row row = true) (rows : List α) :
    upsert sameKey row (upsert sameKey row rows) = upsert sameKey row rows := by
  induction rows with
  | nil => simp [upsert, own]
  | cons old rest ih =>
    cases same : sameKey row old with
    | true => simp [upsert, same, own]
    | false => simp [upsert, same, ih]

theorem channel?_key {tables : Tables} {id : String} {row : ChannelRow} (found : tables.channel? id = some row) :
    row.id = id := by
  simpa using List.find?_some found

theorem channel?_written (row : ChannelRow) (tables : Tables) (id : String) :
    ((Change.channel row).apply tables).channel? id = if row.id = id then some row else tables.channel? id := by
  simp only [Change.apply, Tables.channel?]
  rw [find?_upsert]
  · simp
  · intro wanted old
    simp only [beq_iff_eq] at wanted
    simp only [ChannelRow.sameKey, ← wanted, BEq.comm]
  · intro wanted old same
    simp only [ChannelRow.sameKey, beq_iff_eq] at same
    rwa [← same]

theorem cooldown?_key {tables : Tables} {channel fid : String} {row : CooldownRow}
    (found : tables.cooldown? channel fid = some row) : row.fid = fid ∧ row.channelId = channel := by
  simpa using List.find?_some found

theorem cooldown?_written (row : CooldownRow) (tables : Tables) (channel fid : String) :
    ((Change.cooldown row).apply tables).cooldown? channel fid =
      if row.fid = fid ∧ row.channelId = channel then some row
      else tables.cooldown? channel fid := by
  simp only [Change.apply, Tables.cooldown?]
  rw [find?_upsert]
  · simp
  · intro wanted old
    simp only [Bool.and_eq_true, beq_iff_eq] at wanted
    simp only [CooldownRow.sameKey, ← wanted.1, ← wanted.2, BEq.comm]
  · intro wanted old same
    simp only [CooldownRow.sameKey, Bool.and_eq_true, beq_iff_eq] at same
    rwa [← same.1, ← same.2]

theorem downvote?_key {tables : Tables} {fid hash : String} {row : DownvoteRow}
    (found : tables.downvote? fid hash = some row) : row.fid = fid ∧ row.castHash = hash := by
  simpa using List.find?_some found

theorem downvote?_written (row : DownvoteRow) (tables : Tables) (fid hash : String) :
    ((Change.downvote row).apply tables).downvote? fid hash =
      if row.fid = fid ∧ row.castHash = hash then some row else tables.downvote? fid hash := by
  simp only [Change.apply, Tables.downvote?]
  rw [find?_upsert]
  · simp
  · intro wanted old
    simp only [Bool.and_eq_true, beq_iff_eq] at wanted
    simp only [DownvoteRow.sameKey, ← wanted.1, ← wanted.2, BEq.comm]
  · intro wanted old same
    simp only [DownvoteRow.sameKey, Bool.and_eq_true, beq_iff_eq] at same
    rwa [← same.1, ← same.2]

theorem cast?_written (row : CastRow) (tables : Tables) (hash : String) :
    ((Change.cast row).apply tables).cast? hash =
      if row.hash = hash then some row else tables.cast? hash := by
  simp only [Change.apply, Tables.cast?]
  rw [find?_upsert]
  · simp
  · intro wanted old
    simp only [beq_iff_eq] at wanted
    simp only [CastRow.sameKey, ← wanted, BEq.comm]
  · intro wanted old same
    simp only [CastRow.sameKey, beq_iff_eq] at same
    rwa [← same]

theorem log?_updated (log : Log) (tables : Tables) (id : String) :
    ((Change.updateLog log).apply tables).log? id = if log.id = id then some log else tables.log? id := by
  simp only [Change.apply, Tables.log?]
  rw [find?_upsert]
  · simp
  · intro wanted old
    simp only [beq_iff_eq] at wanted
    simp only [sameLog, ← wanted, BEq.comm]
  · intro wanted old same
    simp only [sameLog, beq_iff_eq] at same
    rwa [← same]

/-- Every change but that of a suspension. -/
def Change.sparesSuspensions : Change → Bool
  | .cooldown _ => false
  | _ => true

theorem Change.apply_cooldowns {change : Change} (spares : change.sparesSuspensions = true)
    (tables : Tables) : (change.apply tables).cooldowns = tables.cooldowns := by
  cases change with
  | cooldown => cases spares
  | channel | role | delegate | cast | downvote | addLog | updateLog | deleteLogs => rfl

theorem Tables.cooldown?_of_cooldowns {tables other : Tables}
    (same : other.cooldowns = tables.cooldowns) (channel fid : String) :
    other.cooldown? channel fid = tables.cooldown? channel fid := by
  simp only [cooldown?, same]

end Curation.Store
