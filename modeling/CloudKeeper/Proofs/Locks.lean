import CloudKeeper.Locks
/-!
Locks and the calls that use them. A call fetches the lock of its key, asks for it, has it, gives it on and
drops it, and a lock is taken out of the table only by its last user. So what a lock says of its calls is so
at every time, and every call that has yet to end its cycle uses the lock that the table holds for its key:
this is one lock for each key, and no lock is for two.
-/
namespace CloudKeeper

/-- Where a call for a cycle stands. -/
inductive Place
  /-- It has fetched the lock of its key. -/
  | arrived
  /-- It has asked for the lock. -/
  | asking
  /-- It has the lock, and its cycle runs. -/
  | inside
  /-- Its cycle is over, and the lock has been evicted if there is no object any more. -/
  | leaving
  /-- It has given the lock on. -/
  | released
  /-- It has dropped the lock. -/
  | gone
  deriving DecidableEq

namespace Place

/-- Whether a call uses its lock. -/
def uses : Place → Bool
  | .arrived | .asking | .inside | .leaving | .released => true
  | .gone => false

/-- Whether a call waits for its lock or has it. -/
def queues : Place → Bool
  | .asking | .inside | .leaving => true
  | .arrived | .released | .gone => false

/-- Whether a call has taken its lock. -/
def holds : Place → Bool
  | .inside | .leaving => true
  | .arrived | .asking | .released | .gone => false

/-- Whether a call has yet to end its cycle. -/
def pending : Place → Bool
  | .arrived | .asking | .inside => true
  | .leaving | .released | .gone => false

/-- Who has yet to end its cycle uses its lock. -/
theorem uses_of_pending {place : Place} (pending : place.pending = true) : place.uses = true := by
  cases place with
  | arrived | asking | inside => rfl
  | leaving | released | gone => cases pending

end Place

/-- A call for a cycle: the key, the lock it has fetched, and where it stands. -/
structure Visit where
  key : Key
  lock : Nat
  place : Place

/-! ## One lock and its calls -/

/-- The call of a number uses a lock and stands at a place of a sort. -/
def Visit.At (visits : List Visit) (sort : Place → Bool) (n i : Nat) : Prop :=
  ∃ v, visits[i]? = some v ∧ v.lock = n ∧ sort v.place = true

/-- A call that moves is at its new place, and every other is where it was. -/
private theorem Visit.at_set {visits : List Visit} {i n : Nat} {v : Visit} (found : visits[i]? = some v)
    (place : Place) (sort : Place → Bool) (j : Nat) :
    Visit.At (visits.set i { v with place }) sort n j ↔
      if j = i then v.lock = n ∧ sort place = true else Visit.At visits sort n j := by
  have within : i < visits.length := (List.getElem?_eq_some_iff.1 found).1
  unfold At
  rw [List.getElem?_set]
  by_cases own : j = i
  · rw [if_pos own, if_pos own.symm, if_pos within]
    constructor
    · rintro ⟨_, ⟨⟩, at_⟩
      exact at_
    · exact fun at_ => ⟨_, rfl, at_⟩
  · rw [if_neg own, if_neg (Ne.symm own)]

theorem Visit.at_self {visits : List Visit} {i : Nat} {v : Visit} (found : visits[i]? = some v)
    (sort : Place → Bool) : Visit.At visits sort v.lock i ↔ sort v.place = true := by
  constructor
  · rintro ⟨w, held, -, at_⟩
    cases found.symm.trans held
    exact at_
  · exact fun at_ => ⟨v, found, rfl, at_⟩

/-- What is put at the end of a list comes after all else. -/
private theorem getElem?_push {α : Type} (l : List α) (a : α) (j : Nat) :
    (l ++ [a])[j]? = if j = l.length then some a else l[j]? := by
  rcases Nat.lt_trichotomy j l.length with before | same | beyond
  · rw [if_neg (Nat.ne_of_lt before), List.getElem?_append_left before]
  · rw [if_pos same, same, List.getElem?_concat_length]
  · have none : l[j]? = none := List.getElem?_eq_none (Nat.le_of_lt beyond)
    rw [if_neg (Nat.ne_of_gt beyond), none, List.getElem?_eq_none]
    simp only [List.length_append, List.length_singleton]
    exact beyond

private theorem nodup_push {α : Type} {l : List α} {a : α} (nodup : l.Nodup) (fresh : a ∉ l) :
    (l ++ [a]).Nodup := by
  refine List.nodup_append.2 ⟨nodup, List.pairwise_singleton _ a, ?_⟩
  rintro b member _ only rfl
  exact fresh (List.mem_singleton.1 only ▸ member)

private theorem Visit.at_append {visits : List Visit} {v : Visit} {sort : Place → Bool} {n j : Nat} :
    Visit.At (visits ++ [v]) sort n j ↔
      if j = visits.length then v.lock = n ∧ sort v.place = true else Visit.At visits sort n j := by
  unfold At
  rw [getElem?_push]
  split
  case isTrue =>
    constructor
    · rintro ⟨_, ⟨⟩, at_⟩
      exact at_
    · exact fun at_ => ⟨v, rfl, at_⟩
  case isFalse => rfl

private theorem Visit.not_at_length {visits : List Visit} {sort : Place → Bool} {n : Nat} :
    ¬Visit.At visits sort n visits.length := by
  rintro ⟨v, found, -⟩
  exact absurd (List.getElem?_eq_some_iff.1 found).1 (Nat.lt_irrefl _)

namespace KeyLock

/-- The calls that have asked for a lock and not given it on, in order of arrival. -/
def line (lock : KeyLock) : List Nat := lock.holder.toList ++ lock.waiting

/-- What a lock says of its calls is so. -/
structure Orderly (lock : KeyLock) (n : Nat) (visits : List Visit) : Prop where
  /-- Nobody waits for a lock that nobody holds. -/
  free : lock.holder = none → lock.waiting = []
  once : lock.users.Nodup
  ordered : lock.line.Nodup
  mem_users : ∀ i, i ∈ lock.users ↔ Visit.At visits Place.uses n i
  mem_line : ∀ i, i ∈ lock.line ↔ Visit.At visits Place.queues n i
  held : ∀ i, Visit.At visits Place.holds n i → lock.holder = some i

/-- A lock becomes another when a call of it moves to a place. -/
structure Passes (before after : KeyLock) (i : Nat) (place : Place) : Prop where
  free : after.holder = none → after.waiting = []
  once : after.users.Nodup
  ordered : after.line.Nodup
  mem_users : ∀ j, j ∈ after.users ↔ if j = i then place.uses = true else j ∈ before.users
  mem_line : ∀ j, j ∈ after.line ↔ if j = i then place.queues = true else j ∈ before.line
  own : place.holds = true → after.holder = some i
  others : ∀ j, j ≠ i → before.holder = some j → after.holder = some j

variable {lock after : KeyLock} {n i : Nat} {visits : List Visit} {v : Visit} {place : Place}

/-- A lock that passes stays orderly. -/
theorem Orderly.pass (orderly : lock.Orderly n visits) (found : visits[i]? = some v) (own : v.lock = n)
    (passes : lock.Passes after i place) : after.Orderly n (visits.set i { v with place }) := by
  refine ⟨passes.free, passes.once, passes.ordered, fun j => ?_, fun j => ?_, fun j at_ => ?_⟩
  · rw [Visit.at_set found, passes.mem_users, orderly.mem_users]
    simp only [own, true_and]
  · rw [Visit.at_set found, passes.mem_line, orderly.mem_line]
    simp only [own, true_and]
  · rw [Visit.at_set found] at at_
    split at at_
    case isTrue same => exact same ▸ passes.own at_.2
    case isFalse apart => exact passes.others j apart (orderly.held j at_)

/-- A lock stays orderly as long as the calls that use it stand where they stood. -/
theorem Orderly.congr (orderly : lock.Orderly n visits) {visits' : List Visit}
    (same : ∀ sort j, Visit.At visits' sort n j ↔ Visit.At visits sort n j) : lock.Orderly n visits' where
  free := orderly.free
  once := orderly.once
  ordered := orderly.ordered
  mem_users j := (orderly.mem_users j).trans (same ..).symm
  mem_line j := (orderly.mem_line j).trans (same ..).symm
  held j at_ := orderly.held j ((same ..).1 at_)

/-- Who runs its cycle has the lock. -/
theorem Orderly.holder (orderly : lock.Orderly v.lock visits) (found : visits[i]? = some v)
    (inside : v.place = .inside) : lock.holder = some i := by
  refine orderly.held i ((Visit.at_self found _).2 ?_)
  rw [inside]
  rfl

/-- A call that moves is of no concern to other locks. -/
theorem Orderly.move (orderly : lock.Orderly n visits) (found : visits[i]? = some v) (apart : v.lock ≠ n)
    (place : Place) : lock.Orderly n (visits.set i { v with place }) := by
  refine orderly.congr fun sort j => ?_
  rw [Visit.at_set found]
  split
  case isFalse => rfl
  case isTrue same =>
    subst same
    refine ⟨fun at_ => absurd at_.1 apart, ?_⟩
    rintro ⟨w, held, own, -⟩
    cases found.symm.trans held
    exact absurd own apart

/-- A lock need not change for a call that goes on using it as it did. -/
theorem Orderly.keeps {before : Place} (orderly : lock.Orderly v.lock visits) (found : visits[i]? = some v)
    (stands : v.place = before) (uses : place.uses = before.uses) (queues : place.queues = before.queues)
    (own : place.holds = true → lock.holder = some i) : lock.Passes lock i place where
  free := orderly.free
  once := orderly.once
  ordered := orderly.ordered
  mem_users j := by
    split
    case isTrue same => rw [same, orderly.mem_users, Visit.at_self found, uses, stands]
    case isFalse => rfl
  mem_line j := by
    split
    case isTrue same => rw [same, orderly.mem_line, Visit.at_self found, queues, stands]
    case isFalse => rfl
  own := own
  others _ _ holds := holds

/-- A lock after a call has asked for it. -/
def asked (lock : KeyLock) (i : Nat) : KeyLock :=
  match lock.holder, lock.waiting with
  | none, [] => { lock with holder := some i }
  | _, _ => { lock with waiting := lock.waiting ++ [i] }

/-- A lock after its holder has given it on. -/
def given (lock : KeyLock) : KeyLock :=
  { lock with holder := lock.waiting.head?, waiting := lock.waiting.tail }

/-- Who asks for a free lock gets it at once. -/
theorem asked_holder (free : lock.holder = none → lock.waiting = []) (i : Nat) :
    (lock.asked i).holder = some (lock.holder.getD i) := by
  unfold asked
  cases holder : lock.holder with
  | none =>
    rw [free holder]
    rfl
  | some h => rfl

/-- Who asks is the last in line. -/
private theorem asked_line (free : lock.holder = none → lock.waiting = []) (i : Nat) :
    (lock.asked i).line = lock.line ++ [i] := by
  unfold asked line
  cases holder : lock.holder with
  | none => rw [free holder]; rfl
  | some h => simp only [List.append_assoc]

private theorem asked_users (lock : KeyLock) (i : Nat) : (lock.asked i).users = lock.users := by
  unfold asked
  split <;> rfl

theorem Orderly.asks (orderly : lock.Orderly v.lock visits) (found : visits[i]? = some v)
    (arrived : v.place = .arrived) : lock.Passes (lock.asked i) i .asking := by
  have holder := asked_holder orderly.free i
  have line := asked_line orderly.free i
  have away : i ∉ lock.line := by
    rw [orderly.mem_line, Visit.at_self found, arrived]
    exact Bool.false_ne_true
  have using_ : i ∈ lock.users := by
    rw [orderly.mem_users, Visit.at_self found, arrived]
    rfl
  refine ⟨fun none => ?_, ?_, ?_, fun j => ?_, fun j => ?_, nofun, fun j _ holds => ?_⟩
  · cases holder.symm.trans none
  · exact asked_users lock i ▸ orderly.once
  · exact line ▸ nodup_push orderly.ordered away
  · rw [asked_users]
    split
    case isTrue same => exact ⟨fun _ => rfl, fun _ => same ▸ using_⟩
    case isFalse => rfl
  · rw [line, List.mem_append, List.mem_singleton]
    split
    case isTrue same => exact ⟨fun _ => rfl, fun _ => .inr same⟩
    case isFalse apart => exact or_iff_left apart
  · rw [holder, holds]
    rfl

/-- Whoever has taken a lock is the first in line. -/
theorem line_of_held (held : lock.holder = some i) : lock.line = i :: lock.waiting := by
  unfold line
  rw [held]
  rfl

/-- Who waits is served when the lock is given on. -/
private theorem given_line (lock : KeyLock) : lock.given.line = lock.waiting := by
  unfold given line
  cases lock.waiting <;> rfl

theorem Orderly.gives (orderly : lock.Orderly v.lock visits) (found : visits[i]? = some v)
    (leaving : v.place = .leaving) : lock.Passes lock.given i .released := by
  have held : lock.holder = some i := by
    refine orderly.held i ((Visit.at_self found _).2 ?_)
    rw [leaving]
    rfl
  have using_ : i ∈ lock.users := by
    rw [orderly.mem_users, Visit.at_self found, leaving]
    rfl
  have line := line_of_held held
  have ordered := orderly.ordered
  rw [line, List.nodup_cons] at ordered
  refine ⟨fun none => ?_, orderly.once, ?_, fun j => ?_, fun j => ?_, nofun, fun j apart holds => ?_⟩
  · have nobody : lock.waiting = [] := List.head?_eq_none_iff.1 none
    rw [given, nobody, List.tail_nil]
  · rw [given_line]
    exact ordered.2
  · split
    case isTrue same => exact ⟨fun _ => rfl, fun _ => same ▸ using_⟩
    case isFalse => rfl
  · rw [given_line, line, List.mem_cons]
    split
    case isTrue same => exact ⟨fun member => absurd (same ▸ member) ordered.1, nofun⟩
    case isFalse apart => exact (or_iff_right apart).symm
  · exact absurd (Option.some.inj (holds.symm.trans held)) apart

theorem Orderly.drops (orderly : lock.Orderly v.lock visits) (found : visits[i]? = some v)
    (released : v.place = .released) :
    lock.Passes { lock with users := lock.users.erase i } i .gone := by
  have away : i ∉ lock.line := by
    rw [orderly.mem_line, Visit.at_self found, released]
    exact Bool.false_ne_true
  refine ⟨orderly.free, orderly.once.erase i, orderly.ordered, fun j => ?_, fun j => ?_, nofun,
    fun _ _ holds => holds⟩
  · rw [orderly.once.mem_erase_iff]
    split
    case isTrue same => exact ⟨fun member => absurd same member.1, nofun⟩
    case isFalse apart => exact and_iff_right apart
  · split
    case isTrue same => exact ⟨fun member => absurd (same ▸ member) away, nofun⟩
    case isFalse => rfl

/-- A call that comes uses its lock, and has yet to ask for it. -/
theorem Orderly.joins (orderly : lock.Orderly n visits) (key : Key) :
    Orderly { lock with users := lock.users ++ [visits.length] } n (visits ++ [⟨key, n, .arrived⟩]) := by
  have fresh : visits.length ∉ lock.users := mt (orderly.mem_users _).1 Visit.not_at_length
  have away : visits.length ∉ lock.line := mt (orderly.mem_line _).1 Visit.not_at_length
  refine ⟨orderly.free, ?_, orderly.ordered, fun j => ?_, fun j => ?_, fun j at_ => ?_⟩
  · exact nodup_push orderly.once fresh
  · rw [List.mem_append, List.mem_singleton, Visit.at_append]
    split
    case isTrue same => exact ⟨fun _ => ⟨rfl, rfl⟩, fun _ => .inr same⟩
    case isFalse apart => exact (or_iff_left apart).trans (orderly.mem_users j)
  · rw [Visit.at_append]
    split
    case isTrue same =>
      refine ⟨fun member => absurd (same ▸ member) away, fun at_ => ?_⟩
      cases at_.2
    case isFalse => exact orderly.mem_line j
  · rw [Visit.at_append] at at_
    split at at_
    case isTrue => cases at_.2
    case isFalse => exact orderly.held j at_

/-- A call that comes for one lock is of no concern to others. -/
theorem Orderly.passBy (orderly : lock.Orderly n visits) (apart : v.lock ≠ n) :
    lock.Orderly n (visits ++ [v]) := by
  refine orderly.congr fun sort j => ?_
  rw [Visit.at_append]
  split
  case isTrue same =>
    exact ⟨fun at_ => absurd at_.1 apart, fun at_ => absurd (same ▸ at_) Visit.not_at_length⟩
  case isFalse => rfl

end KeyLock

/-! ## The table of locks -/

private theorem Visit.push_cases {visits : List Visit} {j : Nat} {w u : Visit}
    (held : (visits ++ [w])[j]? = some u) : u = w ∨ visits[j]? = some u := by
  rw [getElem?_push] at held
  split at held
  case isTrue => exact .inl (Option.some.inj held).symm
  case isFalse => exact .inr held

private theorem Visit.set_cases {visits : List Visit} {i j : Nat} {w u : Visit}
    (held : (visits.set i w)[j]? = some u) : (j = i ∧ u = w) ∨ (j ≠ i ∧ visits[j]? = some u) := by
  rw [List.getElem?_set] at held
  split at held
  case isTrue same =>
    split at held
    · exact .inl ⟨same.symm, (Option.some.inj held).symm⟩
    · cases held
  case isFalse apart => exact .inr ⟨Ne.symm apart, held⟩

namespace Locks

variable {l after : Locks} {visits : List Visit} {i n : Nat} {v : Visit} {place : Place}

theorem get_modify {n : Nat} (within : n < l.locks.length) (change : KeyLock → KeyLock) (m : Nat) :
    (l.modify n change).get m = if m = n then change (l.get n) else l.get m := by
  unfold modify get
  rw [List.getElem?_set]
  by_cases own : m = n
  · rw [if_pos own, if_pos own.symm, if_pos within]
    rfl
  · rw [if_neg own, if_neg (Ne.symm own)]

/-- The locks serve the calls: what each lock says of its calls is so, and every call that has yet to end its
cycle uses the lock that the table holds for its key. -/
structure Serves (l : Locks) (visits : List Visit) : Prop where
  /-- Every lock has been made for one key. -/
  owned : ∃ owner : Nat → Key, (∀ (i : Nat) v, visits[i]? = some v → owner v.lock = v.key) ∧
    ∀ key n, l.table.get? key = some n → owner n = key
  fetched : ∀ (i : Nat) v, visits[i]? = some v → v.lock < l.locks.length
  made : ∀ key n, l.table.get? key = some n → n < l.locks.length
  orderly : ∀ n, (l.get n).Orderly n visits
  tabled : ∀ (i : Nat) v, visits[i]? = some v → v.place.pending = true → l.table.get? v.key = some v.lock

/-- Calls of one key that have yet to end their cycles use one lock. -/
theorem Serves.one_lock (serves : l.Serves visits) {i j : Nat} {v w : Visit} (found : visits[i]? = some v)
    (held : visits[j]? = some w) (same : v.key = w.key) (pending : v.place.pending = true)
    (also : w.place.pending = true) : v.lock = w.lock := by
  have own := serves.tabled i v found pending
  rw [same, serves.tabled j w held also] at own
  exact (Option.some.inj own).symm

/-- Calls that use one lock are of one key. -/
theorem Serves.one_key (serves : l.Serves visits) {i j : Nat} {v w : Visit} (found : visits[i]? = some v)
    (held : visits[j]? = some w) (same : v.lock = w.lock) : v.key = w.key := by
  obtain ⟨owner, owned, -⟩ := serves.owned
  rw [← owned i v found, same, owned j w held]

/-- When a call moves, its lock passes, the others stay as they are, and no entry comes into the table. -/
private theorem Serves.move (serves : l.Serves visits) (found : visits[i]? = some v)
    (entries : ∀ key n, after.table.get? key = some n → l.table.get? key = some n)
    (made : after.locks.length = l.locks.length)
    (passes : (l.get v.lock).Passes (after.get v.lock) i place)
    (others : ∀ n, n ≠ v.lock → after.get n = l.get n)
    (tabled : ∀ (j : Nat) w, visits[j]? = some w → (if j = i then place else w.place).pending = true →
      after.table.get? w.key = some w.lock) :
    after.Serves (visits.set i { v with place }) := by
  obtain ⟨owner, owned, held⟩ := serves.owned
  refine ⟨⟨owner, fun j w among => ?_, fun key n entry => held key n (entries key n entry)⟩,
    fun j w among => ?_, fun key n entry => ?_, fun n => ?_, fun j w among pending => ?_⟩
  · rcases Visit.set_cases among with ⟨-, rfl⟩ | ⟨-, among⟩
    · exact owned i v found
    · exact owned j w among
  · rw [made]
    rcases Visit.set_cases among with ⟨-, rfl⟩ | ⟨-, among⟩
    · exact serves.fetched i v found
    · exact serves.fetched j w among
  · exact made ▸ serves.made key n (entries key n entry)
  · by_cases own : n = v.lock
    · rw [own]
      exact (serves.orderly v.lock).pass found rfl passes
    · rw [others n own]
      exact (serves.orderly n).move found (Ne.symm own) place
  · rcases Visit.set_cases among with ⟨rfl, rfl⟩ | ⟨apart, among⟩
    · exact tabled j v found (by rwa [if_pos rfl])
    · exact tabled j w among (by rwa [if_neg apart])

/-- A table that stays as it is serves a call that moves, unless the call begins anew. -/
private theorem Serves.stays {before : Place} (serves : l.Serves visits) (found : visits[i]? = some v)
    (stands : v.place = before) (pending : place.pending = true → before.pending = true) :
    ∀ (j : Nat) w, visits[j]? = some w → (if j = i then place else w.place).pending = true →
      l.table.get? w.key = some w.lock := by
  intro j w among still
  split at still
  case isTrue same =>
    subst same
    cases found.symm.trans among
    exact serves.tabled j v found (stands ▸ pending still)
  case isFalse => exact serves.tabled j w among still

/-- When only a lock changes, the table holds what it held. -/
theorem Serves.modify {before : Place} (serves : l.Serves visits) (found : visits[i]? = some v)
    (stands : v.place = before) (change : KeyLock → KeyLock)
    (passes : (l.get v.lock).Passes (change (l.get v.lock)) i place)
    (pending : place.pending = true → before.pending = true) :
    (l.modify v.lock change).Serves (visits.set i { v with place }) := by
  have within := serves.fetched i v found
  refine serves.move found (fun _ _ entry => entry) List.length_set ?_ (fun n apart => ?_)
    (serves.stays found stands pending)
  · rw [get_modify within, if_pos rfl]
    exact passes
  · rw [get_modify within, if_neg apart]

/-- A call that has the lock begins its cycle, or one that has ended it need not evict the lock. -/
theorem Serves.keep {before : Place} (serves : l.Serves visits) (found : visits[i]? = some v)
    (stands : v.place = before) (uses : place.uses = before.uses) (queues : place.queues = before.queues)
    (own : place.holds = true → (l.get v.lock).holder = some i)
    (pending : place.pending = true → before.pending = true) :
    l.Serves (visits.set i { v with place }) :=
  serves.move found (fun _ _ entry => entry) rfl ((serves.orderly v.lock).keeps found stands uses queues own)
    (fun _ _ => rfl) (serves.stays found stands pending)

/-- A lock is evicted only by its last user, so no call is left that would need it. -/
theorem Serves.evict (serves : l.Serves visits) (found : visits[i]? = some v)
    (inside : v.place = .inside) :
    (l.evict i v.key v.lock).Serves (visits.set i { v with place := .leaving }) := by
  have held := (serves.orderly v.lock).holder found inside
  unfold Locks.evict
  split
  case isFalse => exact serves.keep found inside rfl rfl (fun _ => held) nofun
  case isTrue last =>
    have kept : (l.get v.lock).Passes (l.get v.lock) i .leaving :=
      (serves.orderly v.lock).keeps found inside rfl rfl fun _ => held
    refine serves.move found (fun key n entry => ?_) rfl kept (fun _ _ => rfl) fun j w among still => ?_
    · rw [SortedMap.get?_erase] at entry
      split at entry
      · cases entry
      · exact entry
    · rw [SortedMap.get?_erase]
      by_cases own : j = i
      · rw [if_pos own] at still
        cases still
      rw [if_neg own] at still
      have entry := serves.tabled j w among still
      split
      case isFalse => exact entry
      case isTrue same =>
        -- another call that has yet to end its cycle would use this very lock
        have lock : w.lock = v.lock := Option.some.inj (entry.symm.trans (same ▸ last.1))
        have uses : j ∈ (l.get v.lock).users :=
          ((serves.orderly v.lock).mem_users j).2 ⟨w, among, lock, Place.uses_of_pending still⟩
        rw [last.2, List.mem_singleton] at uses
        exact absurd uses own

/-- What has become of the locks when a call has fetched the one of a number for a key. -/
private structure Fetched (l after : Locks) (call : Nat) (key : Key) (n : Nat) : Prop where
  known : l.table.get? key = some n ∨ (l.table.get? key = none ∧ n = l.locks.length)
  table : ∀ other, after.table.get? other = if other = key then some n else l.table.get? other
  within : n < after.locks.length
  longer : l.locks.length ≤ after.locks.length
  get : ∀ m, after.get m =
    if m = n then { l.get n with users := (l.get n).users ++ [call] } else l.get m

private theorem fetch_fetched {key : Key} (made : ∀ n, l.table.get? key = some n → n < l.locks.length)
    (call : Nat) : l.Fetched (l.fetch call key).1 call key (l.fetch call key).2 := by
  cases entry : l.table.get? key with
  | some n =>
    have fetches : l.fetch call key =
        (l.modify n fun lock => { lock with users := lock.users ++ [call] }, n) := by rw [fetch, entry]
    have length : (l.modify n fun lock => { lock with users := lock.users ++ [call] }).locks.length =
        l.locks.length := List.length_set
    rw [fetches]
    refine ⟨.inl entry, fun other => ?_, length ▸ made n entry, length ▸ Nat.le_refl _, ?_⟩
    · split
      case isTrue same => exact same ▸ entry
      case isFalse => rfl
    · exact get_modify (made n entry) _
  | none =>
    have fetches : l.fetch call key =
        ({ table := l.table.insert key l.locks.length, locks := l.locks ++ [{ users := [call] }] },
          l.locks.length) := by rw [fetch, entry]
    rw [fetches]
    refine ⟨.inr ⟨entry, rfl⟩, fun other => SortedMap.get?_insert .., ?_, ?_, fun m => ?_⟩
    · simp only [List.length_append, List.length_singleton, Nat.lt_add_one]
    · simp only [List.length_append, Nat.le_add_right]
    · unfold get
      rw [getElem?_push]
      split
      case isTrue same => rw [List.getElem?_eq_none (Nat.le_refl _)]; rfl
      case isFalse => rfl

section Fetched

variable {key : Key}

/-- A lock that a call fetches is used by calls of its key only: one that was in the table has been made for
this key, and one that is new has been fetched by nobody. -/
private theorem Fetched.key_of_lock (fetched : l.Fetched after visits.length key n)
    (serves : l.Serves visits) (found : visits[i]? = some v) (lock : v.lock = n) : v.key = key := by
  obtain ⟨owner, owned, held⟩ := serves.owned
  rcases fetched.known with entry | ⟨-, new⟩
  · rw [← owned i v found, lock, held key n entry]
  · exact absurd (serves.fetched i v found) (by rw [lock, new]; exact Nat.lt_irrefl _)

/-- Nor has the table held it for another key. -/
private theorem Fetched.key_of_entry (fetched : l.Fetched after visits.length key n)
    (serves : l.Serves visits) {other : Key} (entry : l.table.get? other = some n) : other = key := by
  obtain ⟨owner, -, held⟩ := serves.owned
  rcases fetched.known with known | ⟨-, new⟩
  · exact (held other n entry).symm.trans (held key n known)
  · exact absurd (serves.made other n entry) (by rw [new]; exact Nat.lt_irrefl _)

private theorem Fetched.owned (fetched : l.Fetched after visits.length key n) (serves : l.Serves visits) :
    ∃ owner : Nat → Key,
      (∀ (i : Nat) v, (visits ++ [⟨key, n, .arrived⟩])[i]? = some v → owner v.lock = v.key) ∧
        ∀ other m, after.table.get? other = some m → owner m = other := by
  obtain ⟨owner, owned, held⟩ := serves.owned
  refine ⟨fun m => if m = n then key else owner m, fun i v found => ?_, fun other m entry => ?_⟩
  · dsimp only
    rcases Visit.push_cases found with rfl | found
    · exact if_pos rfl
    · split
      case isTrue same => exact (fetched.key_of_lock serves found same).symm
      case isFalse => exact owned i v found
  · dsimp only
    rw [fetched.table] at entry
    split at entry
    case isTrue same =>
      cases entry
      exact (if_pos rfl).trans same.symm
    case isFalse =>
      split
      case isTrue same => exact (fetched.key_of_entry serves (same ▸ entry)).symm
      case isFalse => exact held other m entry

private theorem Fetched.tabled (fetched : l.Fetched after visits.length key n) (serves : l.Serves visits)
    (found : (visits ++ [⟨key, n, .arrived⟩])[i]? = some v) (pending : v.place.pending = true) :
    after.table.get? v.key = some v.lock := by
  rw [fetched.table]
  rcases Visit.push_cases found with rfl | found
  · exact if_pos rfl
  have entry := serves.tabled i v found pending
  split
  case isFalse => exact entry
  case isTrue same =>
    rw [same] at entry
    rcases fetched.known with known | ⟨unknown, -⟩
    · exact known.symm.trans entry
    · cases unknown.symm.trans entry

/-- A call that comes fetches the lock of its key. -/
theorem Serves.fetch (serves : l.Serves visits) (key : Key) :
    (l.fetch visits.length key).1.Serves
      (visits ++ [⟨key, (l.fetch visits.length key).2, .arrived⟩]) := by
  have fetched := fetch_fetched (serves.made key) visits.length
  generalize (l.fetch visits.length key).1 = after at fetched ⊢
  generalize (l.fetch visits.length key).2 = n at fetched ⊢
  refine ⟨fetched.owned serves, fun i v found => ?_, fun other m entry => ?_, fun m => ?_,
    fun i v found => fetched.tabled serves found⟩
  · rcases Visit.push_cases found with rfl | found
    · exact fetched.within
    · exact Nat.lt_of_lt_of_le (serves.fetched i v found) fetched.longer
  · rw [fetched.table] at entry
    split at entry
    case isTrue =>
      cases entry
      exact fetched.within
    case isFalse => exact Nat.lt_of_lt_of_le (serves.made other m entry) fetched.longer
  · rw [fetched.get]
    split
    case isTrue same =>
      subst same
      exact (serves.orderly m).joins key
    case isFalse apart => exact (serves.orderly m).passBy (Ne.symm apart)

end Fetched

end Locks

end CloudKeeper
