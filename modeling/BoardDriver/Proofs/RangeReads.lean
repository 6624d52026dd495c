/-
A range of registers is read as its registers are read one by one.

An offset has 32 bits. Here an address is a natural number, and register `i` of a range has the address
`offset + 4 * i`, whatever that comes to; a read at an address that is no offset is refused for that very address. So
nothing is said of multiplications and additions that might wrap around: a range that agrees with these reads has none.

- `readAt`, `singleReads`: a guarded read at an address, and those of the registers of a range;
- `readAt_cases`: such a read is one call of the backend of the BAR, or it is refused and everything is as before;
- `readRange_eq_collect`: a range is these reads in order, until one fails;
- `le_of_succeed`: a bank has room for those that succeed;
- `callsTo_singleReads`, `callsTo_of_failsAt`: which calls reach the backends;
- `lines_run_read`: what the command line prints;
- `readRange_is_single_reads`: all of it.
-/
import BoardDriver.Proofs.AccessGuard
import BoardDriver.Proofs.StepsInOrder
import BoardDriver.CommandLine.Run

namespace BoardDriver
namespace RegisterTable

open BoardDriver.Action (Succeed InOrder collect leave raised)

variable {β : Type}

/-- bytes of a BAR; none if there is no such BAR -/
def bytes (t : RegisterTable β) (bar : Nat) : Nat := ((t.banks[bar]?).map RegisterBank.size).getD 0

/-- whether a read at an address gets past the guard -/
def Reaches (t : RegisterTable β) (bar address : Nat) : Prop :=
  address < UInt32.size ∧ ∃ b s, t.Admits bar .read (UInt32.ofNat address) b s

variable [RegisterBackend β]

/-- a guarded read at an address; there are no offsets from `UInt32.size` on -/
def readAt (bar address : Nat) : Action (RegisterTable β) UInt32 :=
  if address < UInt32.size then read bar (UInt32.ofNat address)
  else Action.fail (.outOfRange address (UInt32.size - 1))

/-- the reads of `count` registers, each at its own address -/
def singleReads (bar : Nat) (offset : UInt32) (count : Nat) : List (Action (RegisterTable β) UInt32) :=
  (List.range count).map fun i => readAt bar (offset.toNat + 4 * i)

section

variable {t : RegisterTable β} {bar : Nat} {offset : UInt32}

/-! ## One read -/

theorem readAt_of_reaches {address : Nat} {b : RegisterBank β} {s : β} (hlt : address < UInt32.size)
    (ha : t.Admits bar .read (UInt32.ofNat address) b s) :
    readAt bar address t =
      { result := (RegisterBackend.read (UInt32.ofNat address) s).result
        state := t.setBank bar { b with backend := some (RegisterBackend.read (UInt32.ofNat address) s).state }
        events := (RegisterBackend.read (UInt32.ofNat address) s).events
        locks := 1 } := by
  rw [readAt, if_pos hlt]
  exact guarded_of_admits (RegisterBackend.read (UInt32.ofNat address)) ha

/-- a read gets past the guard, or it is refused and the table is as before -/
theorem readAt_cases (t : RegisterTable β) (bar address : Nat) :
    t.Reaches bar address ∨
      ¬ t.Reaches bar address ∧ ∃ e, readAt bar address t = { result := .error e, state := t, events := [] } := by
  by_cases hlt : address < UInt32.size
  · rcases t.refuses_or_admits bar .read (UInt32.ofNat address) with ⟨⟨e, he, -⟩, hnone⟩ | ⟨-, b, s, ha⟩
    · refine .inr ⟨fun ⟨_, b, s, ha⟩ => hnone b s ha, e, ?_⟩
      rw [readAt, if_pos hlt]
      exact guarded_of_refuses _ he
    · exact .inl ⟨hlt, b, s, ha⟩
  · refine .inr ⟨fun h => hlt h.1, .outOfRange address (UInt32.size - 1), ?_⟩
    rw [readAt, if_neg hlt]
    rfl

theorem Reaches.of_ok {address : Nat} {value : UInt32} (h : (readAt bar address t).result = .ok value) :
    t.Reaches bar address := by
  rcases readAt_cases t bar address with hreach | ⟨-, e, he⟩
  · exact hreach
  · rw [he] at h
    cases h

omit [RegisterBackend β] in
theorem Reaches.lt_bytes {address : Nat} (h : t.Reaches bar address) : address < t.bytes bar := by
  obtain ⟨hlt, b, s, ha⟩ := h
  have hinside := ha.inside
  rw [UInt32.toNat_ofNat_of_lt' hlt] at hinside
  rwa [bytes, ha.bank]

/-- reads leave the sizes of the banks alone -/
theorem bytes_readAt (t : RegisterTable β) (bar address k : Nat) :
    (readAt bar address t).state.bytes k = t.bytes k := by
  rcases readAt_cases t bar address with ⟨hlt, b, s, ha⟩ | ⟨-, e, he⟩
  · rw [readAt_of_reaches hlt ha]
    unfold bytes setBank
    rw [List.getElem?_set]
    split
    · rename_i hk
      subst hk
      have hlen := (List.getElem?_eq_some_iff.1 ha.bank).1
      rw [if_pos hlen, ha.bank]
      rfl
    · rfl
  · rw [he]

/-! ## The reads of a range -/

theorem singleReads_succ (bar : Nat) (offset : UInt32) (n : Nat) :
    (singleReads bar offset (n + 1) : List (Action (RegisterTable β) UInt32)) =
      singleReads bar offset n ++ [readAt bar (offset.toNat + 4 * n)] := by
  rw [singleReads, List.range_succ, List.map_append, List.map_singleton]
  rfl

theorem length_singleReads (bar : Nat) (offset : UInt32) (n : Nat) :
    (singleReads bar offset n : List (Action (RegisterTable β) UInt32)).length = n := by
  rw [singleReads, List.length_map, List.length_range]

/-- the reads before one of them, and those after it -/
theorem singleReads_split (bar : Nat) (offset : UInt32) {i count : Nat} (hi : i < count) :
    ∃ rest, (singleReads bar offset count : List (Action (RegisterTable β) UInt32)) =
      singleReads bar offset i ++ readAt bar (offset.toNat + 4 * i) :: rest := by
  obtain ⟨k, rfl⟩ : ∃ k, count = i + (k + 1) := ⟨count - i - 1, by omega⟩
  rw [singleReads, List.range_add, List.map_append, List.range_succ_eq_map, List.map_cons, List.map_cons]
  exact ⟨_, rfl⟩

/-- a read of a range has its place there -/
theorem eq_of_singleReads_eq_append {count : Nat} {done rest : List (Action (RegisterTable β) UInt32)}
    {x : Action (RegisterTable β) UInt32} (h : singleReads bar offset count = done ++ x :: rest) :
    ∃ i, i < count ∧ done = singleReads bar offset i ∧ x = readAt bar (offset.toNat + 4 * i) := by
  have hlength := congrArg List.length h
  rw [length_singleReads, List.length_append, List.length_cons] at hlength
  have hi : done.length < count := by omega
  obtain ⟨later, hlater⟩ := singleReads_split (β := β) bar offset hi
  obtain ⟨hdone, hrest⟩ := List.append_inj (h.symm.trans hlater) (length_singleReads bar offset _).symm
  exact ⟨done.length, hi, hdone, (List.cons.inj hrest).1⟩

/-! ## The arithmetic of the offsets -/

/-- while `i` has 32 bits, place `i` is the register at its address -/
theorem readPlace_eq_readAt (bar : Nat) (offset : UInt32) {i : Nat} (hi : i < UInt32.size) :
    (readPlace bar offset i : Action (RegisterTable β) UInt32) = readAt bar (offset.toNat + 4 * i) := by
  have haddress : offset.toNat + (UInt32.ofNat i).toNat * registerBytes = offset.toNat + 4 * i := by
    rw [UInt32.toNat_ofNat_of_lt' hi, registerBytes, Nat.mul_comm]
  unfold readPlace readAt
  dsimp only
  cases hplace : placeAfter? offset (UInt32.ofNat i) with
  | some place =>
    have hnat := (placeAfter?_eq_some_iff offset _ place).1 hplace
    rw [haddress] at hnat
    rw [← hnat, if_pos place.toNat_lt_size, UInt32.ofNat_toNat]
  | none =>
    have hpast := (placeAfter?_eq_none_iff offset _).1 hplace
    rw [haddress] at hpast
    rw [if_neg (Nat.not_lt.2 hpast), toNat_widePlaceAfter, haddress]

/-- the offsets end long before the places do, so `i` always has 32 bits -/
theorem readPlaces_eq_collect (bar : Nat) (offset : UInt32) (i count : Nat) (hi : i < UInt32.size)
    (t : RegisterTable β) :
    readPlaces bar offset i count t =
      collect ((List.range' i count).map fun j => readAt bar (offset.toNat + 4 * j)) t := by
  induction count generalizing i t with
  | zero => rfl
  | succ count ih =>
    rw [List.range'_succ, List.map_cons]
    change Action.bind (readPlace bar offset i)
      (fun value => Action.bind (readPlaces bar offset (i + 1) count) fun rest => Action.pure (value :: rest)) t = _
    rw [readPlace_eq_readAt bar offset hi]
    cases hread : (readAt bar (offset.toNat + 4 * i) t).result with
    | error e => rw [Action.bind_of_error hread, Action.collect_cons_of_error hread]
    | ok value =>
      have haddress := (Reaches.of_ok hread).1
      have hnext : i + 1 < UInt32.size := by
        have : UInt32.size = 4294967296 := rfl
        omega
      rw [Action.bind_of_ok hread, Action.bind_pure, ih (i + 1) hnext, Action.collect_cons_of_ok hread]

/-- a range is the reads of its registers in order -/
theorem readRange_eq_collect (bar : Nat) (offset : UInt32) (count : Nat) (t : RegisterTable β) :
    readRange bar offset count t = collect (singleReads bar offset count) t := by
  rw [readRange, readPlaces_eq_collect bar offset 0 count (by decide), singleReads, List.range_eq_range']

/-! ## How many succeed -/

theorem bytes_leave_singleReads (t : RegisterTable β) (bar : Nat) (offset : UInt32) (n k : Nat) :
    (leave (singleReads bar offset n) t).bytes k = t.bytes k := by
  induction n with
  | zero => rfl
  | succ n ih =>
    rw [singleReads_succ, Action.leave_append]
    exact (bytes_readAt _ bar _ k).trans ih

/-- a bank has room for the registers that are read -/
theorem le_of_succeed {n : Nat} {values : List UInt32} (h : Succeed (singleReads bar offset n) t values) :
    n ≤ (t.bytes bar - offset.toNat + 3) / 4 := by
  cases n with
  | zero => exact Nat.zero_le _
  | succ n =>
    rw [singleReads_succ] at h
    obtain ⟨value, -, hlast⟩ := h.answer
    have hinside := (Reaches.of_ok hlast).lt_bytes
    rw [bytes_leave_singleReads] at hinside
    omega

end

/-! ## The calls that the backends receive -/

section

variable {t : RegisterTable (Recorded β)} {bar : Nat} {offset : UInt32}

/-- the calls that have reached the backend of a BAR -/
def callsTo {β : Type} (t : RegisterTable (Recorded β)) (bar : Nat) : List BackendCall :=
  ((t.banks[bar]?.bind RegisterBank.backend).map Recorded.calls).getD []

def readCalls (offset : UInt32) (n : Nat) : List BackendCall :=
  (List.range n).map fun i => .read (UInt32.ofNat (offset.toNat + 4 * i))

theorem readCalls_succ (offset : UInt32) (n : Nat) :
    readCalls offset (n + 1) = readCalls offset n ++ [.read (UInt32.ofNat (offset.toNat + 4 * n))] := by
  rw [readCalls, List.range_succ, List.map_append, List.map_singleton]
  rfl

/-- a read that gets past the guard is one call of one backend -/
theorem callsTo_readAt {address : Nat} (h : t.Reaches bar address) (k : Nat) :
    callsTo (readAt bar address t).state k =
      callsTo t k ++ if k = bar then [.read (UInt32.ofNat address)] else [] := by
  obtain ⟨hlt, b, r, ha⟩ := h
  have hlen := (List.getElem?_eq_some_iff.1 ha.bank).1
  rw [readAt_of_reaches hlt ha]
  unfold callsTo setBank
  by_cases hk : k = bar
  · subst hk
    rw [List.getElem?_set_self hlen, if_pos rfl, ha.bank]
    simp only [Option.bind_some, ha.backend, Option.map_some, Option.getD_some, Recorded.call_read,
      Recorded.calls_entered]
  · rw [List.getElem?_set_ne (Ne.symm hk), if_neg hk, List.append_nil]

/-- one more read that gets past the guard is one more call -/
theorem callsTo_next {n : Nat} {u : RegisterTable (Recorded β)}
    (hbefore : ∀ k, callsTo u k = callsTo t k ++ if k = bar then readCalls offset n else [])
    (hreach : u.Reaches bar (offset.toNat + 4 * n)) (k : Nat) :
    callsTo (readAt bar (offset.toNat + 4 * n) u).state k =
      callsTo t k ++ if k = bar then readCalls offset (n + 1) else [] := by
  calc callsTo (readAt bar (offset.toNat + 4 * n) u).state k
      = callsTo u k ++ if k = bar then [.read (UInt32.ofNat (offset.toNat + 4 * n))] else [] :=
        callsTo_readAt hreach k
    _ = callsTo t k ++ ((if k = bar then readCalls offset n else []) ++
          if k = bar then [.read (UInt32.ofNat (offset.toNat + 4 * n))] else []) := by
        rw [hbefore k, List.append_assoc]
    _ = callsTo t k ++ if k = bar then readCalls offset (n + 1) else [] := by
        rw [readCalls_succ]
        split <;> rfl

theorem callsTo_singleReads {n : Nat} {values : List UInt32} (h : Succeed (singleReads bar offset n) t values)
    (k : Nat) :
    callsTo (leave (singleReads bar offset n) t) k = callsTo t k ++ if k = bar then readCalls offset n else [] := by
  induction n generalizing values k with
  | zero =>
    rw [show readCalls offset 0 = [] from rfl, ite_self, List.append_nil]
    rfl
  | succ n ih =>
    rw [singleReads_succ] at h
    obtain ⟨before, _, -, hbefore, -⟩ := h.split
    obtain ⟨value, -, hlast⟩ := h.answer
    rw [singleReads_succ, Action.leave_append]
    exact callsTo_next (ih hbefore) (.of_ok hlast) k

end

/-! ## The range -/

/-- the reads of a range succeed up to the `i`-th, which fails -/
def FailsAt (t : RegisterTable β) (bar : Nat) (offset : UInt32) (i : Nat) (e : Error) : Prop :=
  (∃ values, Succeed (singleReads bar offset i) t values) ∧
    (readAt bar (offset.toNat + 4 * i) (leave (singleReads bar offset i) t)).result = .error e

section

variable {t : RegisterTable β} {bar : Nat} {offset : UInt32} {count : Nat}

theorem readRange_of_failsAt {i : Nat} {e : Error} (hi : i < count) (h : t.FailsAt bar offset i e) :
    readRange bar offset count t =
      { result := .error e
        state := leave (singleReads bar offset (i + 1)) t
        events := raised (singleReads bar offset (i + 1)) t
        locks := Action.locking (singleReads bar offset (i + 1)) t } := by
  obtain ⟨⟨values, hvalues⟩, hfails⟩ := h
  obtain ⟨rest, hrest⟩ := singleReads_split (β := β) bar offset hi
  rw [readRange_eq_collect, hrest, Action.collect_of_fails hvalues hfails, singleReads_succ]

/-- the reads of a range all succeed, or one is the first to fail -/
theorem readRange_cases (t : RegisterTable β) (bar : Nat) (offset : UInt32) (count : Nat) :
    (∃ values, Succeed (singleReads bar offset count) t values ∧
        readRange bar offset count t =
          { result := .ok values
            state := leave (singleReads bar offset count) t
            events := raised (singleReads bar offset count) t
            locks := Action.locking (singleReads bar offset count) t }) ∨
      ∃ i < count, ∃ e, t.FailsAt bar offset i e := by
  rcases Action.succeed_or_fails (singleReads bar offset count) t with
    ⟨values, h⟩ | ⟨done, x, rest, values, e, hreads, h, hfails⟩
  · refine .inl ⟨values, h, ?_⟩
    rw [readRange_eq_collect, Action.collect_of_succeed h]
  · obtain ⟨i, hi, rfl, rfl⟩ := eq_of_singleReads_eq_append hreads
    exact .inr ⟨i, hi, e, ⟨values, h⟩, hfails⟩

theorem succeed_of_readRange_eq_ok {values : List UInt32} (h : (readRange bar offset count t).result = .ok values) :
    Succeed (singleReads bar offset count) t values := by
  rcases t.readRange_cases bar offset count with ⟨values', h', heq⟩ | ⟨i, hi, e, hfails⟩
  · rw [heq] at h
    cases h
    exact h'
  · rw [readRange_of_failsAt hi hfails] at h
    cases h

theorem readRange_eq_error_iff {e : Error} :
    (readRange bar offset count t).result = .error e ↔ ∃ i < count, t.FailsAt bar offset i e := by
  constructor
  · intro h
    rcases t.readRange_cases bar offset count with ⟨values, -, heq⟩ | ⟨i, hi, e', hfails⟩
    · rw [heq] at h
      cases h
    · rw [readRange_of_failsAt hi hfails] at h
      cases h
      exact ⟨i, hi, hfails⟩
  · rintro ⟨i, hi, hfails⟩
    rw [readRange_of_failsAt hi hfails]

/-- each value is that of its own read, whose address is an offset -/
theorem value_of_succeed {values : List UInt32} (h : Succeed (singleReads bar offset count) t values) {i : Nat}
    (hi : i < count) :
    offset.toNat + 4 * i < UInt32.size ∧ ∃ value, values[i]? = some value ∧
      (readAt bar (offset.toNat + 4 * i) (leave (singleReads bar offset i) t)).result = .ok value := by
  obtain ⟨rest, hrest⟩ := singleReads_split (β := β) bar offset hi
  rw [hrest] at h
  obtain ⟨value, hvalue, hread⟩ := h.answer
  rw [length_singleReads] at hvalue
  exact ⟨(Reaches.of_ok hread).1, value, hvalue, hread⟩

end

/-- the calls of a range that fails: those of the reads that succeed, and one more if the last gets past the guard -/
theorem callsTo_of_failsAt {t : RegisterTable (Recorded β)} {bar : Nat} {offset : UInt32} {count i : Nat} {e : Error}
    (hi : i < count) (h : t.FailsAt bar offset i e) :
    ∃ made, (made = i + 1 ∧ (leave (singleReads bar offset i) t).Reaches bar (offset.toNat + 4 * i) ∨
        made = i ∧ ¬ (leave (singleReads bar offset i) t).Reaches bar (offset.toNat + 4 * i)) ∧
      ∀ k, callsTo (readRange bar offset count t).state k =
        callsTo t k ++ if k = bar then readCalls offset made else [] := by
  rw [readRange_of_failsAt hi h, singleReads_succ, Action.leave_append]
  obtain ⟨⟨values, hvalues⟩, hfails⟩ := h
  have hbefore := callsTo_singleReads hvalues
  rcases readAt_cases (leave (singleReads bar offset i) t) bar (offset.toNat + 4 * i) with hreach | ⟨hno, e', he'⟩
  · exact ⟨i + 1, .inl ⟨rfl, hreach⟩, callsTo_next hbefore hreach⟩
  · refine ⟨i, .inr ⟨rfl, hno⟩, fun k => ?_⟩
    change callsTo (readAt bar (offset.toNat + 4 * i) (leave (singleReads bar offset i) t)).state k = _
    rw [he', hbefore k]

/-! ## The command line -/

open CommandLine in
/-- what the command line prints of a range that it has read: a line for each value, with its 32-bit offset -/
theorem lines_run_read {d : Board} {bar : Nat} {offset : UInt32} {count : Nat}
    (h : (Task.run d (.read bar offset count)).fault = none) :
    ∃ values, (readRange bar offset count d.table).result = .ok values ∧
      (Task.run d (.read bar offset count)).lines = (List.range values.length).zipWith
        (fun i value => Task.registerLine bar (offset + UInt32.ofNat i * UInt32.ofNat registerBytes).toNat "=" value)
        values := by
  have hanswer : (d.openSession.2.readRegisterRange bar offset count).1 = (readRange bar offset count d.table).result :=
    rfl
  simp only [Task.run, Task.inSession, hanswer] at h ⊢
  cases hr : (readRange bar offset count d.table).result with
  | error e =>
    rw [hr] at h
    cases h
  | ok values => exact ⟨values, rfl, rfl⟩

/-- an offset that is small enough is found without wrapping around -/
theorem toNat_offset {offset : UInt32} {i : Nat} (h : offset.toNat + 4 * i < UInt32.size) :
    (offset + UInt32.ofNat i * UInt32.ofNat registerBytes).toNat = offset.toNat + 4 * i := by
  have hsize : UInt32.size = 2 ^ 32 := rfl
  rw [UInt32.toNat_add, UInt32.toNat_mul, UInt32.toNat_ofNat_of_lt' (by omega),
    UInt32.toNat_ofNat_of_lt' (by decide), registerBytes]
  omega

open CommandLine in
/-- **A range is read as its registers are, one by one.** For every table of banks with any backends, every BAR, offset
and count:
- the range is what comes of the single reads in order, each at `offset + 4 * i` whatever that comes to, with the same
answer, state and events;
- an answer has as many values as were asked for, each that of its own read;
- an error is that of a read whose predecessors succeed, and none is made after it;
- however many are asked for, no more succeed than the bank has room for;
- the backend of the BAR receives one call for each read that succeeds, and one for a read that fails if it has got past
the guard; no other backend receives any;
- the command line prints one line for each value, with the address of its read, which is an offset. -/
theorem readRange_is_single_reads :
    (∀ {β : Type} [RegisterBackend β] (t : RegisterTable β) (bar : Nat) (offset : UInt32) (count : Nat),
      let range := readRange bar offset count t
      (∀ o, InOrder (singleReads bar offset count) t o ↔ o = range) ∧
      (∀ values, range.result = .ok values → values.length = count ∧ ∀ i < count, ∃ value, values[i]? = some value ∧
        (readAt bar (offset.toNat + 4 * i) (leave (singleReads bar offset i) t)).result = .ok value) ∧
      (∀ e, range.result = .error e ↔ ∃ i < count, t.FailsAt bar offset i e) ∧
      (∀ i < count, ∀ e, t.FailsAt bar offset i e →
        range.state = leave (singleReads bar offset (i + 1)) t ∧
        range.events = raised (singleReads bar offset (i + 1)) t) ∧
      ∀ n values, Succeed (singleReads bar offset n) t values → n ≤ (t.bytes bar - offset.toNat + 3) / 4) ∧
    (∀ {β : Type} [RegisterBackend β] (t : RegisterTable (Recorded β)) (bar : Nat) (offset : UInt32) (count : Nat),
      let range := readRange bar offset count t
      (∀ values, range.result = .ok values → ∀ k,
        callsTo range.state k = callsTo t k ++ if k = bar then readCalls offset count else []) ∧
      ∀ i < count, ∀ e, t.FailsAt bar offset i e →
        ∃ made, (made = i + 1 ∧ (leave (singleReads bar offset i) t).Reaches bar (offset.toNat + 4 * i) ∨
            made = i ∧ ¬ (leave (singleReads bar offset i) t).Reaches bar (offset.toNat + 4 * i)) ∧
          ∀ k, callsTo range.state k = callsTo t k ++ if k = bar then readCalls offset made else []) ∧
    ∀ (d : Board) (bar : Nat) (offset : UInt32) (count : Nat), (Task.run d (.read bar offset count)).fault = none →
      let lines := (Task.run d (.read bar offset count)).lines
      ∃ values, (readRange bar offset count d.table).result = .ok values ∧ lines.length = count ∧
        ∀ i < count, offset.toNat + 4 * i < UInt32.size ∧ ∃ value, values[i]? = some value ∧
          lines[i]? = some (Task.registerLine bar (offset.toNat + 4 * i) "=" value) := by
  refine ⟨fun t bar offset count => ⟨?_, ?_, ?_, ?_, ?_⟩, fun t bar offset count => ⟨?_, ?_⟩, ?_⟩
  · intro o
    rw [readRange_eq_collect]
    exact Action.inOrder_iff _ t o
  · intro values h
    have hsucceed := succeed_of_readRange_eq_ok h
    refine ⟨hsucceed.length_eq.trans (length_singleReads bar offset count), fun i hi => ?_⟩
    exact (value_of_succeed hsucceed hi).2
  · exact fun e => readRange_eq_error_iff
  · intro i hi e h
    rw [readRange_of_failsAt hi h]
    exact ⟨rfl, rfl⟩
  · exact fun n values h => le_of_succeed h
  · intro values h k
    have hsucceed := succeed_of_readRange_eq_ok h
    rw [readRange_eq_collect, Action.collect_of_succeed hsucceed]
    exact callsTo_singleReads hsucceed k
  · exact fun i hi e h => callsTo_of_failsAt hi h
  · intro d bar offset count h lines
    obtain ⟨values, hvalues, hlines⟩ := lines_run_read h
    change lines = _ at hlines
    have hsucceed := succeed_of_readRange_eq_ok hvalues
    have hlength : values.length = count := hsucceed.length_eq.trans (length_singleReads bar offset count)
    refine ⟨values, hvalues, ?_, fun i hi => ?_⟩
    · rw [hlines, List.length_zipWith, List.length_range, Nat.min_self, hlength]
    · obtain ⟨hoffset, value, hvalue, -⟩ := value_of_succeed hsucceed hi
      refine ⟨hoffset, value, hvalue, ?_⟩
      have hplace : (List.range values.length)[i]? = some i := List.getElem?_range (hlength ▸ hi)
      rw [hlines, List.getElem?_zipWith, hplace, hvalue]
      simp only [toNat_offset hoffset]

/-- a bank of the greatest size that a bank can tell -/
def greatestBank : RegisterTable (Recorded SparseRegisters) :=
  ofBanks .simulator [.ofBackend 0 (some { backend := { size := UInt32.size - 1 } })]

open CommandLine in
/-- two registers are left before the addresses end, and the third is not read; the command line shows the last two of
the simulated board's BAR 0 -/
theorem readRange_is_single_reads_greatestBank :
    FailsAt greatestBank 0 0xfffffff8 2 (.outOfRange 0x100000000 0xffffffff) ∧
    (readRange 0 0xfffffff8 5 greatestBank).result = .error (.outOfRange 0x100000000 0xffffffff) ∧
    callsTo (readRange 0 0xfffffff8 5 greatestBank).state 0 = [.read 0xfffffff8, .read 0xfffffffc] ∧
    (∀ n values, Succeed (singleReads 0 0xfffffff8 n) greatestBank values → n ≤ 2) ∧
    ∃ d : Board, (Task.run d (.read 0 0x7f8 2)).fault = none ∧
      ∃ value, (Task.run d (.read 0 0x7f8 2)).lines[1]? = some (Task.registerLine 0 0x7fc "=" value) := by
  have hfails : FailsAt greatestBank 0 0xfffffff8 2 (.outOfRange 0x100000000 0xffffffff) :=
    ⟨⟨[0, 0], .cons rfl (.cons rfl (.nil _))⟩, rfl⟩
  obtain ⟨hrange, hcalls, hprinted⟩ := readRange_is_single_reads
  obtain ⟨-, -, herror, -, hroom⟩ := hrange greatestBank 0 0xfffffff8 5
  obtain ⟨made, hmade, hreceived⟩ := (hcalls greatestBank 0 0xfffffff8 5).2 2 (by decide) _ hfails
  obtain rfl : made = 2 := by
    rcases hmade with ⟨-, hlt, -⟩ | ⟨hmade, -⟩
    · exact absurd hlt (by decide)
    · exact hmade
  refine ⟨hfails, (herror _).2 ⟨2, by decide, hfails⟩, hreceived 0, hroom, ?_⟩
  let d : Board := (Device.build (fun _ => none) .simulator none).toOption.get (by decide)
  have hfault : (Task.run d (.read 0 0x7f8 2)).fault = none := by decide +kernel
  obtain ⟨values, -, -, hlines⟩ := hprinted d 0 0x7f8 2 hfault
  obtain ⟨-, value, -, hline⟩ := hlines 1 (by decide)
  exact ⟨d, hfault, value, hline⟩

end RegisterTable
end BoardDriver
