import Curation.Proofs.Cache.Claims
import Curation.Proofs.Program.Runs

/-! What is done with a cache, one access after another. Time passes and the server may come
and go between any two accesses, also between the two of a look-up that makes a missing
value afresh. Every access is noted down with its answer. -/
namespace Curation.Cache

/-! ## Accesses -/

/-- What is asked of the place where entries are kept. -/
inductive Access where
  | look (key : String)
  | write (key : String) (value : Json) (ttl : Number) (onlyNew : Bool)
  | drop (key : String)

namespace Access

def Answer : Access → Type
  | .look _ => Option Json
  | .write .. => Bool
  | .drop _ => Unit

def key : Access → String
  | .look key | .write key .. | .drop key => key

end Access

/-- When an access takes place, and what it finds on the server. Others may have put that
there. -/
structure Occasion where
  now : Number
  server : Server

/-- The cache as it is found on an occasion. -/
def on (occasion : Occasion) (cache : Cache) : Cache := { cache with server := occasion.server }

def answer (occasion : Occasion) : (access : Access) → Cache → access.Answer × Cache
  | .look key, cache => (cache.on occasion).get key occasion.now
  | .write key value ttl onlyNew, cache => (cache.on occasion).write key value ttl occasion.now onlyNew
  | .drop key, cache => ((), (cache.on occasion).release key)

/-- A cache in the process stays there. -/
theorem answer_memory {cache : Cache} (memory : cache.backend = .memory) (occasion : Occasion) (access : Access) :
    (cache.answer occasion access).2.backend = .memory := by
  have memory : (cache.on occasion).backend = .memory := memory
  cases access with
  | look other => exact get_memory memory
  | write other value ttl onlyNew => exact write_memory memory onlyNew
  | drop other => exact release_memory memory

/-! ## Operations -/

/-- An operation on the cache. Making a fresh value gives it, or fails. -/
inductive Operation where
  | get (key : String)
  | set (key : String) (value : Json) (ttl : Number)
  | getOr (key : String) (ttl : Number) (fresh : Except String Json)
  | claim (key : String) (ttl : Number)
  | release (key : String)

def Operation.key : Operation → String
  | .get key | .set key .. | .getOr key .. | .claim key _ | .release key => key

/-- What an operation gives. Of a value that was looked up or made afresh it is told which. -/
inductive Reply where
  | found (value : Option Json)
  | kept
  | result (isFresh : Bool) (value : Json)
  | taken (success : Bool)
  | freed

/-- What follows the look-up of a value that is made afresh where there is none. -/
def orFresh (key : String) (ttl : Number) (fresh : Except String Json) :
    Option Json → Program Access Access.Answer String Reply
  | some value => .done (.result false value)
  | none =>
    match fresh with
    | .ok value => .ask (.write key value ttl false) fun _ => .done (.result true value)
    | .error fault => .failed fault

/-- The accesses of an operation. -/
def Operation.program : Operation → Program Access Access.Answer String Reply
  | .get key => .ask (.look key) fun value => .done (.found value)
  | .set key value ttl => .ask (.write key value ttl false) fun _ => .done .kept
  | .getOr key ttl fresh => .ask (.look key) (orFresh key ttl fresh)
  | .claim key ttl => .ask (.write key (.int 1) ttl true) fun success => .done (.taken success)
  | .release key => .ask (.drop key) fun _ => .done .freed

/-- An access with its answer, and where the entries were kept from then on. -/
structure Exchange where
  occasion : Occasion
  access : Access
  answer : access.Answer
  backend : Backend

/-- A cache and all accesses to it, the last one first. -/
structure Diary where
  cache : Cache
  past : List Exchange := []

variable {occasions : Nat → Occasion} {occasion : Occasion} {cache : Cache} {diary : Diary}

/-- An access on an occasion is noted down. -/
def Diary.note (occasion : Occasion) (access : Access) (diary : Diary) : access.Answer × Diary :=
  let (answer, cache) := diary.cache.answer occasion access
  (answer, ⟨cache, ⟨occasion, access, answer, cache.backend⟩ :: diary.past⟩)

/-- What is noted of an access. -/
def exchangeOf (occasion : Occasion) (access : Access) (cache : Cache) : Exchange :=
  ⟨occasion, access, (cache.answer occasion access).1, (cache.answer occasion access).2.backend⟩

theorem Diary.note_past (occasion : Occasion) (access : Access) (diary : Diary) :
    (diary.note occasion access).2.past = exchangeOf occasion access diary.cache :: diary.past := rfl

/-- The next occasion. -/
def Diary.next (occasions : Nat → Occasion) (diary : Diary) : Occasion := occasions diary.past.length

/-- Every access of a program on the next occasion. -/
def runOn {α : Type} (occasions : Nat → Occasion) (program : Program Access Access.Answer String α)
    (diary : Diary) : Except String α × Diary :=
  program.run (fun access diary => diary.note (diary.next occasions) access) diary

def perform (occasions : Nat → Occasion) (operation : Operation) (diary : Diary) : Except String Reply × Diary :=
  runOn occasions operation.program diary

/-- What operations leave, one after the other. -/
def performAll (occasions : Nat → Occasion) (operations : List Operation) (diary : Diary) : Diary :=
  operations.foldl (fun diary operation => (perform occasions operation diary).2) diary

theorem perform_getOr (key : String) (ttl : Number) (fresh : Except String Json) :
    perform occasions (.getOr key ttl fresh) diary =
      runOn occasions (orFresh key ttl fresh (diary.note (diary.next occasions) (.look key)).1)
        (diary.note (diary.next occasions) (.look key)).2 := rfl

/-! ## Operations at once -/

/-- An operation all of which takes place at one time, as the cache carries it out. -/
def Operation.atOnce (now : Number) (cache : Cache) : Operation → Except String Reply × Cache
  | .get key => (.ok (.found (cache.get key now).1), (cache.get key now).2)
  | .set key value ttl => (.ok .kept, cache.put key value ttl now)
  | .getOr key ttl fresh =>
    let ((isFresh, result), cache) := cache.getOr key ttl now fresh
    (result.map (.result isFresh), cache)
  | .claim key ttl => (.ok (.taken (cache.claim key ttl now).1), (cache.claim key ttl now).2)
  | .release key => (.ok .freed, cache.release key)

theorem settled_server (cache : Cache) : cache.settled.server = cache.server := by
  unfold settled
  split <;> rfl

/-- A look-up writes nothing on the server. -/
theorem get_server (key : String) (now : Number) (cache : Cache) : (cache.get key now).2.server = cache.server := by
  simp only [get]
  split
  · exact settled_server cache
  · split
    · exact settled_server cache
    · split
      · exact settled_server cache
      · exact settled_server cache

/-- While time stands still and nobody else writes on the server, the accesses of an operation
come to what the cache does at once. -/
theorem perform_atOnce (occasion : Occasion) (operation : Operation) (diary : Diary) :
    (perform (fun _ => occasion) operation diary).1 =
        (operation.atOnce occasion.now (diary.cache.on occasion)).1 ∧
      (perform (fun _ => occasion) operation diary).2.cache =
        (operation.atOnce occasion.now (diary.cache.on occasion)).2 := by
  cases operation with
  | get | set | claim | release => exact ⟨rfl, rfl⟩
  | getOr key ttl fresh =>
    have server : ((diary.cache.on occasion).get key occasion.now).2.server = occasion.server := get_server ..
    rw [perform_getOr, Diary.next, Diary.note, answer, Operation.atOnce, getOr]
    cases looked : (diary.cache.on occasion).get key occasion.now with
    | mk found after =>
      rw [looked] at server
      have stays : after.on occasion = after := by rw [on, ← server]
      cases found with
      | some value => exact ⟨rfl, rfl⟩
      | none =>
        cases fresh with
        | error fault => exact ⟨rfl, rfl⟩
        | ok value =>
          refine ⟨rfl, ?_⟩
          change ((after.on occasion).write key value ttl occasion.now false).2 = _
          rw [stays]
          rfl

end Curation.Cache
