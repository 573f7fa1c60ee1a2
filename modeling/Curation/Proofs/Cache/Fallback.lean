import Curation.Proofs.Cache.Operations

/-! A cache on a server that may fail at any access. The first access that finds the server
down goes on in the process, and so does every later one, whether the server is up again or
not. As nothing was kept in the process before, the cache goes on as a fresh one. -/
namespace Curation.Cache

variable {occasions : Nat → Occasion} {occasion : Occasion} {cache fresh : Cache} {diary : Diary}

/-- What was asked, and on which occasion. -/
def Exchange.asked (exchange : Exchange) : Occasion × Access := (exchange.occasion, exchange.access)

/-- Accesses to a cache in the process that was empty before, each on its occasion, the last
one first. -/
def inProcess : List (Occasion × Access) → Diary
  | [] => { cache := {} }
  | (occasion, access) :: earlier => ((inProcess earlier).note occasion access).2

/-- Two caches that are in the process and have the same entries there. -/
structure Alike (cache fresh : Cache) : Prop where
  memory : cache.backend = .memory
  same : cache.entries = fresh.entries
  memory' : fresh.backend = .memory

theorem Alike.on_eq (alike : Alike cache fresh) (occasion : Occasion) : cache.on occasion = fresh.on occasion := by
  rw [on, on, alike.memory, alike.memory', alike.same]

/-- A cache on a server that is down is found as one in the process. -/
theorem settled_down (served : cache.backend = .server) (down : occasion.server.isDown = true) :
    (cache.on occasion).settled = { cache.on occasion with backend := .memory } := by
  have both : ((cache.on occasion).backend = .server && (cache.on occasion).server.isDown) = true := by
    simp [on, served, down]
  rw [settled, if_pos both]

theorem settled_up (cache : Cache) (up : occasion.server.isDown = false) :
    (cache.on occasion).settled = cache.on occasion := by
  have not : ¬ ((cache.on occasion).backend = .server && (cache.on occasion).server.isDown) = true := by
    simp [on, up]
  rw [settled, if_neg not]

/-- An access sees no more of a cache than what it settles to. -/
theorem answer_congr (access : Access) (settles : (cache.on occasion).settled = (fresh.on occasion).settled) :
    cache.answer occasion access = fresh.answer occasion access := by
  cases access with
  | look key =>
    simp only [answer, get, settles]
    rfl
  | write key value ttl onlyNew =>
    simp only [answer, write, settles]
    rfl
  | drop key => simp only [answer, release, settles]

/-- What is answered alike leaves two caches alike, if one of them is in the process. -/
theorem alike_answer {access : Access} (same : cache.answer occasion access = fresh.answer occasion access)
    (memory : fresh.backend = .memory) :
    Alike (cache.answer occasion access).2 (fresh.answer occasion access).2 := by
  have memory := answer_memory memory occasion access
  rw [same]
  exact ⟨memory, rfl, memory⟩

theorem exchangeOf_congr {access : Access} (same : cache.answer occasion access = fresh.answer occasion access) :
    exchangeOf occasion access cache = exchangeOf occasion access fresh := by
  rw [exchangeOf, same, exchangeOf]

/-- While the server is up, a cache stays there, and keeps nothing in the process. -/
theorem answer_up (access : Access) (served : cache.backend = .server) (up : occasion.server.isDown = false) :
    (cache.answer occasion access).2.backend = .server ∧
      (cache.answer occasion access).2.entries = cache.entries := by
  obtain ⟨backend, server, entries⟩ := cache
  subst served
  have settles : Cache.settled ⟨.server, occasion.server, entries⟩ = ⟨.server, occasion.server, entries⟩ :=
    settled_up ⟨.server, server, entries⟩ up
  cases access with
  | look key =>
    simp only [answer, get, on, settles]
    trivial
  | write key value ttl onlyNew =>
    simp only [answer, write, on, settles]
    split
    · exact ⟨rfl, rfl⟩
    · exact ⟨rfl, rfl⟩
  | drop key =>
    simp only [answer, release, on, settles]
    trivial

theorem inProcess_memory (asked : List (Occasion × Access)) :
    (inProcess asked).cache.backend = .memory ∧
      ∀ exchange ∈ (inProcess asked).past, exchange.backend = .memory := by
  induction asked with
  | nil => exact ⟨rfl, List.forall_mem_nil _⟩
  | cons ask earlier ih =>
    obtain ⟨memory, past⟩ := ih
    have here := answer_memory memory ask.1 ask.2
    exact ⟨here, List.forall_mem_cons.mpr ⟨here, past⟩⟩

/-- The accesses before the server failed, and those from then on. -/
inductive Fallen (diary : Diary) : Prop
  | served : diary.cache.backend = .server → diary.cache.entries = [] →
    (∀ exchange ∈ diary.past, exchange.occasion.server.isDown = false ∧ exchange.backend = .server) →
    Fallen diary
  | fell (after before : List Exchange) (failing : Exchange) :
    diary.past = (after ++ [failing]) ++ before →
    (∀ exchange ∈ before, exchange.occasion.server.isDown = false ∧ exchange.backend = .server) →
    failing.occasion.server.isDown = true →
    (inProcess ((after ++ [failing]).map Exchange.asked)).past = after ++ [failing] →
    Alike diary.cache (inProcess ((after ++ [failing]).map Exchange.asked)).cache → Fallen diary

theorem Fallen.note (fallen : Fallen diary) (occasion : Occasion) (access : Access) :
    Fallen (diary.note occasion access).2 := by
  cases fallen with
  | served served empty past =>
    cases down : occasion.server.isDown with
    | false =>
      obtain ⟨stays, same⟩ := answer_up access served down
      exact .served stays (same.trans empty) (List.forall_mem_cons.mpr ⟨⟨down, stays⟩, past⟩)
    | true =>
      have settles : (diary.cache.on occasion).settled = (Cache.on occasion {}).settled := by
        rw [settled_down served down, on, empty]
        rfl
      have same := answer_congr access settles
      refine .fell [] _ (exchangeOf occasion access {}) ?_ past down rfl ?_
      · rw [Diary.note_past, exchangeOf_congr same]
        rfl
      · exact alike_answer same rfl
  | fell after before failing whole past down answers alike =>
    have same := answer_congr access (congrArg settled (alike.on_eq occasion))
    refine .fell (exchangeOf occasion access diary.cache :: after) _ failing ?_ past down ?_ ?_
    · rw [Diary.note_past, whole]
      rfl
    · change (Diary.note occasion access (inProcess ((after ++ [failing]).map Exchange.asked))).2.past = _
      rw [Diary.note_past, answers, exchangeOf_congr same]
      rfl
    · exact alike_answer same alike.memory'

theorem Fallen.perform (fallen : Fallen diary) (operation : Operation) :
    Fallen (perform occasions operation diary).2 :=
  Program.run_invariant (fun access _ fallen => fallen.note _ access) operation.program fallen

theorem Fallen.performAll (fallen : Fallen diary) (operations : List Operation) :
    Fallen (performAll occasions operations diary) := by
  induction operations generalizing diary with
  | nil => exact fallen
  | cons operation rest ih => exact ih (fallen.perform operation)

/-- An operation fails only where it had to make a value afresh and could not. -/
theorem perform_error {operation : Operation} {fault : String}
    (failed : (perform occasions operation diary).1 = .error fault) :
    ∃ key ttl, operation = .getOr key ttl (.error fault) := by
  cases operation with
  | get | set | claim | release => cases failed
  | getOr key ttl made =>
    rw [perform_getOr] at failed
    cases looked : (diary.note (diary.next occasions) (.look key)).1 with
    | some value =>
      rw [looked] at failed
      cases failed
    | none =>
      rw [looked] at failed
      cases made with
      | ok value => cases failed
      | error fault' =>
        cases failed
        exact ⟨key, ttl, rfl⟩

/-- A cache on a server, whenever that is down. No operation fails for it. The first access
that finds the server down goes on in the process, and so does every later one; and from that
one on, all answers are those of a cache that was in the process and empty. -/
theorem server_failure_unnoticed (occasions : Nat → Occasion) (server : Server) (operations : List Operation) :
    let diary := performAll occasions operations { cache := { backend := .server, server } }
    (∀ operation fault, (perform occasions operation diary).1 = .error fault →
      ∃ key ttl, operation = .getOr key ttl (.error fault)) ∧
    ∃ after before, diary.past = after ++ before ∧
      (∀ exchange ∈ before, exchange.occasion.server.isDown = false ∧ exchange.backend = .server) ∧
      (∀ first, after.getLast? = some first → first.occasion.server.isDown = true) ∧
      (∀ exchange ∈ after, exchange.backend = .memory) ∧
      (inProcess (after.map Exchange.asked)).past = after := by
  intro diary
  refine ⟨fun operation fault failed => perform_error failed, ?_⟩
  have start : Fallen { cache := { backend := .server, server } } := .served rfl rfl (List.forall_mem_nil _)
  have fallen : Fallen diary := start.performAll operations
  cases fallen with
  | served _ _ past => 
    refine ⟨[], diary.past, rfl, past, fun first last => ?_, List.forall_mem_nil _, rfl⟩
    cases last
  | fell after before failing whole past down answers _ =>
    refine ⟨after ++ [failing], before, whole, past, fun first last => ?_, ?_, answers⟩
    · rw [List.getLast?_concat] at last
      cases last
      exact down
    · have memory := (inProcess_memory ((after ++ [failing]).map Exchange.asked)).2
      rw [answers] at memory
      exact memory

end Curation.Cache
